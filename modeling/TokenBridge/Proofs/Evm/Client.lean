import TokenBridge.Evm.Client
import TokenBridge.Proofs.Evm.Node

namespace TokenBridge.Client

open Contract (Call)
open Dialogue (Runs Only Guarded)
open Node (Query Answer)

variable {c client : Client} {exchanges : List (Exchange Query Answer)}

theorem runs_connect_ok_iff {rpc : String} {token : Address} {chain : Nat} :
    Runs (connect rpc token chain).run exchanges (.ok client) ↔
      ∃ node, Url.read rpc = .ok node ∧ exchanges = [⟨⟨node, .chain⟩, .ok chain⟩] ∧
        client = ⟨node, token, chain, defaultNetwork, none⟩ := by
  rw [connect, Dialogue.runs_attempt_bind_ok_iff]
  constructor
  · rintro ⟨first, node, second, rfl, hnode, hrest⟩
    obtain ⟨rfl, hread⟩ := Node.runs_decided_iff.1 hnode
    obtain ⟨_, _, _, rfl, hchain, hdone⟩ := Dialogue.runs_attempt_bind_ok_iff.1 hrest
    obtain ⟨rfl, hclient⟩ := Dialogue.runs_done_iff.1 hdone
    rw [Node.runs_requireChain_ok.1 hchain]
    exact ⟨node, Node.readUrl_eq_ok_iff.1 hread.symm, rfl, Except.ok.inj hclient⟩
  · rintro ⟨node, hread, rfl, rfl⟩
    have hdecided := Node.runs_decided_iff.2 ⟨rfl, (Node.readUrl_eq_ok_iff.2 hread).symm⟩
    refine ⟨[], node, _, rfl, hdecided, Dialogue.runs_attempt_bind_ok_iff.2 ?_⟩
    exact ⟨_, (), [], (List.append_nil _).symm, Node.runs_requireChain_ok.2 rfl, .done _⟩

theorem withSigner_eq_ok_iff {key : String} :
    c.withSigner key = .ok client ↔
      ∃ signer, Key.read key = .ok signer ∧ client = { c with signer := some signer } := by
  simp only [← Node.readKey_eq_ok_iff, withSigner]
  cases Node.readKey key with
  | ok signer =>
    constructor
    · rintro ⟨⟩
      exact ⟨signer, rfl, rfl⟩
    · rintro ⟨_, ⟨⟩, rfl⟩
      rfl
  | error e =>
    constructor
    · rintro ⟨⟩
    · rintro ⟨_, ⟨⟩, -⟩

theorem of_runs_view {what : String} {call : Call} {kind : Abi.Kind} {v : kind.Val}
    (hr : Runs (c.view what call kind).run exchanges (.ok v)) :
    ∃ data, exchanges = [⟨⟨c.node, .call c.token call.data⟩, .ok data⟩] ∧
      Abi.decode [kind] data = some (v, ()) := by
  obtain ⟨data, rest, rfl, hread⟩ := Node.runs_ask_bind_ok_iff.1 hr
  split at hread
  · next v' _ hdecode =>
    obtain ⟨rfl, hv⟩ := Dialogue.runs_done_iff.1 hread
    cases hv
    exact ⟨data, rfl, hdecode⟩
  · obtain ⟨-, hthrow⟩ := Dialogue.runs_done_iff.1 hread
    cases hthrow

theorem of_runs_balanceOf {account : Address} {balance : Word}
    (hr : Runs (c.balanceOf account).run exchanges (.ok balance)) :
    ∃ data, exchanges = [⟨⟨c.node, .call c.token (Call.balanceOf account).data⟩, .ok data⟩] ∧
      Abi.decode [.word] data = some (balance, ()) :=
  of_runs_view hr

section Only

variable {kind : Query → Prop}

theorem only_connect {rpc : String} {token : Address} {chain : Nat}
    (h : ∀ node, kind ⟨node, .chain⟩) : (connect rpc token chain).run.Only kind :=
  (Node.only_decided _).attempt_bind fun node =>
    (Node.only_requireChain (h node)).attempt_bind fun _ => .done _

theorem only_view {what : String} {call : Call} {k : Abi.Kind} (h : kind ⟨c.node, .call c.token call.data⟩) :
    (c.view what call k).run.Only kind :=
  (Node.only_ask h).attempt_bind fun _ => by split <;> exact .done _

theorem only_balanceOf {account : Address} (h : ∀ data, kind ⟨c.node, .call c.token data⟩) :
    (c.balanceOf account).run.Only kind :=
  only_view (h _)

theorem only_nativeBalance (h : ∀ account, kind ⟨c.node, .balance account⟩) :
    c.nativeBalance.run.Only kind := by
  rw [nativeBalance]
  split
  · exact Node.only_ask (h _)
  · exact .done _

end Only

theorem guarded_withdraw_filled {raw : Word} {destination : String} {key : Key} (hsigner : c.signer = some key) :
    let draft : Node.Draft := ⟨key.account, some c.token, (Call.withdraw raw destination c.network).data⟩
    Guarded Query.submission?
      (fun earlier s => s.Fulfils c.node draft ∧ earlier = Node.filling c.node draft s.transaction)
      (c.withdraw raw destination) := by
  have haccount : c.signerAccount = some key.account := by rw [signerAccount, hsigner, Option.map_some]
  rw [withdraw, haccount]
  refine Node.guarded_send_filled.before fun hash => ?_
  refine Only.attempt_bind (Node.only_ask rfl) fun receipt => ?_
  split <;> exact .done _

theorem guarded_withdraw {raw : Word} {destination : String} {key : Key} (hsigner : c.signer = some key) :
    Guarded Query.submission?
      (fun _ s => s.Fulfils c.node ⟨key.account, some c.token, (Call.withdraw raw destination c.network).data⟩)
      (c.withdraw raw destination) :=
  (guarded_withdraw_filled hsigner).mono fun _ _ h => h.1

end TokenBridge.Client
