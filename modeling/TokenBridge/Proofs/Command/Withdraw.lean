import TokenBridge.Proofs.Command.Talk
import TokenBridge.Proofs.Evm.Contract
import TokenBridge.Proofs.Withdrawal.Judgement

namespace TokenBridge.Command

open Contract (Call)
open Dialogue (Runs Only Guarded Harmless)
open Stellar (Horizon)

variable {args : WithdrawArguments} {vars : Variables} {exchanges : List (Exchange Query Answer)}
  {raw : Word} {signing : Key}

/-- Some exchanges begin with the node's word that it serves the chain, and show a balance of the signer that
covers the amount. -/
def Covers (args : WithdrawArguments) (exchanges : List (Exchange Query Answer)) (raw : Word)
    (signing : Key) : Prop :=
  ∃ node data balance, Url.read args.chain.provider = .ok node ∧
    exchanges.head? = some ⟨.node ⟨node, .chain⟩, .ok args.chain.network⟩ ∧
    ⟨.node ⟨node, .call args.token (Call.balanceOf signing.account).data⟩, .ok data⟩ ∈ exchanges ∧
    Abi.decode [.word] data = some (balance, ()) ∧ 0 < raw.val ∧ raw.val ≤ balance.val

/-- Some exchanges show an account of the destination with a line for the asset. -/
def Trusted (args : WithdrawArguments) (vars : Variables) (exchanges : List (Exchange Query Answer)) : Prop :=
  ∃ horizon asset url answer account, horizonSettings args.horizon vars = .ok (horizon, asset) ∧
    horizon.accountUrl (Text.trim args.destination) = .ok url ∧ ⟨.fetch url, answer⟩ ∈ exchanges ∧
    Horizon.judge (Text.trim args.destination) answer = .ok account ∧
    ∃ line ∈ account.lines, line.assetCode = some asset.code ∧ line.assetIssuer = some asset.issuer

/-- What was typed for a withdrawal makes sense, and some exchanges confirm the rest. -/
structure Cleared (args : WithdrawArguments) (vars : Variables) (exchanges : List (Exchange Query Answer))
    (raw : Word) (signing : Key) : Prop where
  destination : Text.trim args.destination ≠ ""
  amount : ∃ amount, Amount.parse args.amount = .ok amount ∧ Amount.baseUnits amount = raw.val
  key : Key.read args.key.expose = .ok signing
  covers : Covers args exchanges raw signing
  trusted : args.checkDestination → Trusted args vars exchanges

theorem Trusted.of_subset {more : List (Exchange Query Answer)} (h : Trusted args vars exchanges)
    (hs : exchanges ⊆ more) : Trusted args vars more := by
  obtain ⟨horizon, asset, url, answer, account, hsettings, hurl, hfetch, hjudge, hline⟩ := h
  exact ⟨horizon, asset, url, answer, account, hsettings, hurl, hs hfetch, hjudge, hline⟩

theorem Cleared.append (h : Cleared args vars exchanges raw signing) (later : List (Exchange Query Answer)) :
    Cleared args vars (exchanges ++ later) raw signing := by
  obtain ⟨node, data, balance, hnode, hchain, hcall, hdecode, hpos, hle⟩ := h.covers
  refine ⟨h.destination, h.amount, h.key, ⟨node, data, balance, hnode, ?_, ?_, hdecode, hpos, hle⟩, ?_⟩
  · rw [List.head?_append, hchain, Option.some_or]
  · exact List.mem_append_left _ hcall
  · exact fun hc => (h.trusted hc).of_subset (List.subset_append_left _ _)

def withdrawalDraft (args : WithdrawArguments) (raw : Word) (signing : Key) : Node.Draft :=
  ⟨signing.account, some args.token, (Call.withdraw raw (Text.trim args.destination) args.network).data⟩

def Permitted (args : WithdrawArguments) (vars : Variables) (earlier : List (Exchange Query Answer))
    (s : Node.Submission) : Prop :=
  ∃ raw signing node, Cleared args vars earlier raw signing ∧ Url.read args.chain.provider = .ok node ∧
    s.Fulfils node (withdrawalDraft args raw signing)

theorem only_withdrawalClient : (withdrawalClient args).run.Only fun query => query.submission? = none := by
  refine Only.attempt_bind (only_remotely (Client.only_connect fun _ => rfl)) fun client => ?_
  refine Only.attempt_bind (only_decided _ _) fun client => ?_
  split <;> exact .done _

theorem of_runs_withdrawalClient {client : Client} {signer : Address}
    (hr : Runs (withdrawalClient args).run exchanges (.ok (client, signer))) :
    ∃ node signing, Url.read args.chain.provider = .ok node ∧ Key.read args.key.expose = .ok signing ∧
      exchanges = [⟨.node ⟨node, .chain⟩, .ok args.chain.network⟩] ∧ signer = signing.account ∧
      client = ⟨node, args.token, args.chain.network, args.network, some signing⟩ := by
  obtain ⟨_, connected, _, rfl, hconnect, hrest⟩ := Dialogue.runs_attempt_bind_ok_iff.1 hr
  obtain ⟨inner, rfl, hinner⟩ := of_runs_remotely hconnect
  obtain ⟨node, hnode, rfl, rfl⟩ := Client.runs_connect_ok_iff.1 hinner
  obtain ⟨_, client', _, rfl, hdecided, hdone⟩ := Dialogue.runs_attempt_bind_ok_iff.1 hrest
  obtain ⟨rfl, hsigner⟩ := of_runs_decided hdecided
  obtain ⟨signing, hkey, rfl⟩ := Client.withSigner_eq_ok_iff.1 hsigner
  obtain ⟨rfl, hresult⟩ := Dialogue.runs_done_iff.1 hdone
  cases hresult
  exact ⟨node, signing, hnode, hkey, rfl, rfl, rfl⟩

theorem only_confirmDestination {destination : String} :
    (confirmDestination args vars destination).run.Only fun query => query.submission? = none := by
  rw [confirmDestination]
  split
  · refine Only.attempt_bind (only_decided _ _) fun (horizon, asset) => ?_
    exact Only.attempt_bind (only_lookUp fun _ => rfl) fun _ => .done _
  · exact .done _

theorem of_runs_confirmDestination {destination : String}
    (hd : Stellar.Destination.ofString args.destination = .ok destination)
    (hr : Runs (confirmDestination args vars destination).run exchanges (.ok ())) :
    args.checkDestination → Trusted args vars exchanges := by
  intro hcheck
  rw [confirmDestination, if_pos hcheck, Dialogue.runs_attempt_bind_ok_iff] at hr
  obtain ⟨_, ⟨horizon, asset⟩, _, rfl, hdecided, hrest⟩ := hr
  obtain ⟨rfl, hsettings⟩ := of_runs_decided hdecided
  obtain ⟨_, address, _, rfl, hlookUp, hdone⟩ := Dialogue.runs_attempt_bind_ok_iff.1 hrest
  obtain ⟨haddress, url, answer, account, hurl, rfl, hjudge, htrusts⟩ := of_runs_lookUp hlookUp
  obtain ⟨rfl, -⟩ := Stellar.Destination.ofString_eq_ok_iff.1 hd
  rw [Text.trim_trim] at haddress
  subst haddress
  exact ⟨horizon, asset, url, answer, account, hsettings, hurl, by simp, hjudge,
    Stellar.Account.trusts_iff.1 htrusts⟩

theorem guarded_sendWithdrawal {client : Client} {signer : Address} {destination : String}
    (hsigner : client.signer = some signing) :
    Guarded Query.submission?
      (fun _ s => s.Fulfils client.node
        ⟨signing.account, some client.token, (Call.withdraw raw destination client.network).data⟩)
      (sendWithdrawal client signer raw destination) := by
  refine (guarded_remotely (Client.guarded_withdraw hsigner)).before fun receipt => ?_
  refine Only.attempt_bind (only_say rfl) fun _ => ?_
  refine Only.attempt_bind (only_forM_say (fun _ => rfl) _) fun _ => ?_
  exact Only.attempt_bind (only_remotely (Client.only_balanceOf fun _ => rfl)) fun remaining => only_say rfl

theorem guarded_runWithdraw : Guarded Query.submission? (Permitted args vars) (runWithdraw args vars) := by
  rw [runWithdraw]
  refine .after (only_decided _ _) fun _ destination hdecided => ?_
  obtain ⟨rfl, hdestination⟩ := of_runs_decided hdecided
  refine .after (only_decided _ _) fun _ requested hrequested => ?_
  obtain ⟨rfl, hparse⟩ := of_runs_decided hrequested
  refine .after only_withdrawalClient fun _ (client, signer) hclient => ?_
  obtain ⟨node, signing, hnode, hkey, rfl, rfl, rfl⟩ := of_runs_withdrawalClient hclient
  refine .after (only_remotely (Client.only_nativeBalance fun _ => rfl)) fun _ native _ => ?_
  refine .after (only_remotely (Client.only_balanceOf fun _ => rfl)) fun _ balance hbalance => ?_
  obtain ⟨inner, rfl, hinner⟩ := of_runs_remotely hbalance
  obtain ⟨data, rfl, hdata⟩ := Client.of_runs_balanceOf hinner
  refine .after (only_say rfl) fun _ _ _ => ?_
  refine .after (only_say rfl) fun _ _ _ => ?_
  refine .after (only_say rfl) fun _ _ _ => ?_
  refine .after (only_say rfl) fun _ _ _ => ?_
  refine .after (only_decided _ _) fun _ amount hamount => ?_
  obtain ⟨rfl, hvalid⟩ := of_runs_decided hamount
  refine .after only_confirmDestination fun _ _ hconfirm => ?_
  refine (guarded_sendWithdrawal rfl).mono fun earlier s hs => ?_
  obtain ⟨-, -, hpos, hle, hunits⟩ := Withdrawal.validateAmount_eq_ok hvalid
  have htrusted := of_runs_confirmDestination hdestination hconfirm
  obtain ⟨rfl, hne⟩ := Stellar.Destination.ofString_eq_ok_iff.1 hdestination
  refine ⟨amount.raw, signing, node, ⟨hne, ⟨requested, hparse, hunits⟩, hkey, ?_, ?_⟩, hnode, hs⟩
  · exact ⟨node, data, balance, hnode, rfl, by simp [withNode], hdata, hpos, hle⟩
  · exact fun hcheck => (htrusted hcheck).of_subset fun x hx => by simp [hx]

theorem guarded_run_withdraw :
    Guarded Query.submission? (Permitted args vars) (run (.withdraw args) vars) :=
  guarded_runWithdraw.before fun _ => .done _

theorem runs_runWithdraw_of_refused {result : Except Failure Unit}
    (hrefused : Text.trim args.destination = "" ∨ ∃ e, Amount.parse args.amount = .error e)
    (hr : Runs (runWithdraw args vars).run exchanges result) : exchanges = [] ∧ ∃ e, result = .error e := by
  rw [runWithdraw, Dialogue.runs_attempt_bind_iff] at hr
  rcases hr with ⟨e, hdecided, rfl⟩ | ⟨first, destination, second, rfl, hdecided, hrest⟩
  · exact ⟨(Dialogue.runs_done_iff.1 hdecided).1, e, rfl⟩
  obtain ⟨rfl, hdestination⟩ := of_runs_decided hdecided
  rw [Dialogue.runs_attempt_bind_iff] at hrest
  rcases hrest with ⟨e, hdecided', rfl⟩ | ⟨first, amount, second, rfl, hdecided', -⟩
  · exact ⟨(Dialogue.runs_done_iff.1 hdecided').1, e, rfl⟩
  obtain ⟨rfl, hamount⟩ := of_runs_decided hdecided'
  obtain ⟨rfl, hne⟩ := Stellar.Destination.ofString_eq_ok_iff.1 hdestination
  rcases hrefused with hblank | ⟨e, he⟩
  · exact absurd hblank hne
  · rw [hamount] at he
    cases he

theorem exchanges_eq_nil_of_refused {result : Except Failure (Option Watch)}
    (hrefused : Text.trim args.destination = "" ∨ ∃ e, Amount.parse args.amount = .error e)
    (hr : Runs (run (.withdraw args) vars).run exchanges result) : exchanges = [] := by
  rw [run, Dialogue.runs_attempt_bind_iff] at hr
  rcases hr with ⟨e, hfailed, -⟩ | ⟨first, _, second, rfl, hfirst, -⟩
  · exact (runs_runWithdraw_of_refused hrefused hfailed).1
  · obtain ⟨-, e, he⟩ := runs_runWithdraw_of_refused hrefused hfirst
    cases he

theorem withdraw_submits_cleared {result : Except Failure (Option Watch)}
    (hr : Runs (run (.withdraw args) vars).run exchanges result) :
    (submissions exchanges).length ≤ 1 ∧
      (∀ earlier node t answer later,
        exchanges = earlier ++ ⟨.node ⟨node, .send t⟩, answer⟩ :: later →
          ∃ raw signing, Cleared args vars earlier raw signing ∧
            Url.read args.chain.provider = .ok node ∧ t.sender = signing.account ∧
            t.receiver = some args.token ∧
            t.input = (Call.withdraw raw (Text.trim args.destination) args.network).data ∧
            (t.input.length < 2 ^ 63 → ∀ strict, Call.decode strict t.input =
              some (.withdraw raw (Text.trim args.destination) args.network))) ∧
      (Text.trim args.destination = "" ∨ (∃ e, Amount.parse args.amount = .error e) → exchanges = []) ∧
      ((¬ ∃ raw signing, Cleared args vars exchanges raw signing) →
        submissions exchanges = [] ∧ exitCode result = 1) ∧
      (submissions exchanges = [] → exitCode result = 1) := by
  have houtcome := guarded_run_withdraw exchanges result hr
  have hfails : submissions exchanges = [] → exitCode result = 1 := by
    intro hnone
    obtain ⟨e, rfl⟩ := houtcome.eq_error (List.filterMap_eq_nil_iff.1 hnone)
    rfl
  refine ⟨houtcome.length_le_one, ?_, fun hrefused => exchanges_eq_nil_of_refused hrefused hr, ?_, hfails⟩
  · intro earlier node t answer later hsplit
    obtain ⟨raw, signing, node', hcleared, hnode, hs⟩ := houtcome.permits_of_split hsplit rfl
    obtain rfl : node = node' := hs.node
    have hinput : t.input = (Call.withdraw raw (Text.trim args.destination) args.network).data := hs.input
    refine ⟨raw, signing, hcleared, hnode, hs.sender, hs.receiver, hinput, fun hfits strict => ?_⟩
    rw [hinput] at hfits ⊢
    exact Call.decode_data strict hfits
  · intro hnot
    have hharmless : Harmless Query.submission? exchanges := by
      refine houtcome.harmless fun earlier later s hsplit ⟨raw, signing, _, hcleared, _⟩ => hnot ?_
      exact ⟨raw, signing, hsplit ▸ hcleared.append later⟩
    have hnone : submissions exchanges = [] := hharmless.filterMap_eq_nil
    exact ⟨hnone, hfails hnone⟩

def payoutArguments : WithdrawArguments :=
  { token := ⟨List.replicate 20 7, by decide⟩
    key := ⟨"0000000000000000000000000000000000000000000000000000000000000001"⟩
    chain := ⟨"http://localhost:8545", 56⟩
    destination := " GNEW "
    amount := "2.5"
    network := "stellar"
    checkDestination := true
    horizon := ⟨some "https://localhost", some "GISSUER"⟩ }

def trustingAccount : String :=
  "\x7b\"account_id\":\"GNEW\",\"balances\":[\x7b\"asset_type\":\"credit_alphanum4\"," ++
    "\"asset_code\":\"TFT\",\"asset_issuer\":\"GISSUER\"\x7d]\x7d"

def obliging : (query : Query) → Answer query
  | .print _ => ()
  | .warn _ => ()
  | .artifact _ => .error ""
  | .fetch _ => .ok ⟨200, trustingAccount⟩
  | .node ⟨_, .chain⟩ => .ok 56
  | .node ⟨_, .balance _⟩ => .ok Word.zero
  | .node ⟨_, .call _ _⟩ => .ok (bigEndian 32 30000000)
  | .node ⟨_, .nonce _⟩ => .ok 0
  | .node ⟨_, .gas _⟩ => .ok 60000
  | .node ⟨_, .fees⟩ => .ok ⟨1, 1⟩
  | .node ⟨_, .send _⟩ => .ok (Hash.repeated 1)
  | .node ⟨_, .receipt hash⟩ => .ok ⟨hash, true, [], none⟩

def payout : List (Exchange Query Answer) × Except Failure (Option Watch) :=
  (run (.withdraw payoutArguments) fun _ => none).run.answered obliging

theorem length_withdraw_data_lt (raw : Word) :
    (Call.withdraw raw "GNEW" "stellar").data.length < 2 ^ 63 := by
  have htails : (Abi.tails [.word, .text, .text] (raw, "GNEW", "stellar", ())).length = 128 := rfl
  rw [Call.data, Contract.withdrawSelector_eq, List.length_append, Abi.encode, List.length_append,
    Abi.length_heads, htails]
  decide

theorem withdraw_submits_cleared_payout :
    Runs (run (.withdraw payoutArguments) fun _ => none).run payout.1 payout.2 ∧
      ∃ s raw signing, submissions payout.1 = [s] ∧
        Cleared payoutArguments (fun _ => none) payout.1 raw signing ∧
        s.transaction.sender = signing.account ∧ s.transaction.receiver = some payoutArguments.token ∧
        Call.decode true s.transaction.input = some (.withdraw raw "GNEW" "stellar") := by
  have hr := Dialogue.runs_answered obliging (run (.withdraw payoutArguments) fun _ => none).run
  have hlength : (submissions payout.1).length = 1 := by decide +kernel
  obtain ⟨s, hs⟩ := List.length_eq_one_iff.1 hlength
  obtain ⟨answer, hx⟩ := mem_submissions_iff.1 (hs ▸ List.mem_singleton_self s)
  obtain ⟨earlier, later, hsplit⟩ := List.append_of_mem hx
  obtain ⟨raw, signing, hcleared, -, hsender, hreceiver, hinput, hdecode⟩ :=
    (withdraw_submits_cleared hr).2.1 earlier _ _ answer later hsplit
  have htrim : Text.trim payoutArguments.destination = "GNEW" := by decide +kernel
  rw [htrim] at hinput hdecode
  refine ⟨hr, s, raw, signing, hs, hsplit ▸ hcleared.append _, hsender, hreceiver, hdecode ?_ true⟩
  rw [hinput]
  exact length_withdraw_data_lt raw

end TokenBridge.Command
