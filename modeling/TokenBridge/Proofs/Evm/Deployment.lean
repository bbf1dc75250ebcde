import TokenBridge.Evm.Deployment
import TokenBridge.Proofs.Evm.Node

namespace TokenBridge

theorem Artifact.ne_nil_of_bytecode {json : String} {bytecode : Bytes}
    (h : Artifact.bytecode json = .ok bytecode) : bytecode ≠ [] := by
  rintro rfl
  rw [Artifact.bytecode] at h
  split at h
  · cases h
  · split at h
    · cases h
    · cases h
    · next hne hok =>
      cases h
      exact hne rfl

namespace Deployment

open Dialogue (Runs Only Guarded)
open Node (Query Answer trying)

variable {node : Url} {chain : Nat} {deployer : Address} {bytecode : Bytes} {rpc key : String}
  {exchanges : List (Exchange Query Answer)} {result : Except NetworkError Deployment}

def opening (node : Url) (chain : Nat) (deployer : Address) (balance : Word) (bytecode : Bytes)
    (t : Node.Transaction) : List (Exchange Query Answer) :=
  ⟨⟨node, .chain⟩, .ok chain⟩ :: ⟨⟨node, .balance deployer⟩, .ok balance⟩ ::
    Node.filling node ⟨deployer, none, bytecode⟩ t

inductive Reports (deployer : Address) (balance : Word) :
    Except Node.Fault Node.Receipt → Except NetworkError Deployment → Prop
  | unanswered (fault : Node.Fault) :
      Reports deployer balance (.error fault) (.error (trying "Failed to get deployment receipt" fault))
  | reverted {receipt : Node.Receipt} : receipt.succeeded = false →
      Reports deployer balance (.ok receipt) (.error (.reverted receipt.transaction.text))
  | nowhere {receipt : Node.Receipt} : receipt.succeeded = true → receipt.created = none →
      Reports deployer balance (.ok receipt) (.error (.contractCall "Deployment receipt has no contract address"))
  | deployed {receipt : Node.Receipt} {address : Address} : receipt.succeeded = true →
      receipt.created = some address →
      Reports deployer balance (.ok receipt) (.ok ⟨address, receipt.transaction, deployer, balance⟩)

inductive Course (node : Url) (chain : Nat) (deployer : Address) (bytecode : Bytes) :
    List (Exchange Query Answer) → Except NetworkError Deployment → Prop
  | failed {exchanges : List (Exchange Query Answer)} {e : NetworkError} :
      (∀ x ∈ exchanges, x.1.NoReceipt) → Course node chain deployer bytecode exchanges (.error e)
  | asked {balance : Word} {t : Node.Transaction} {hash : Hash} {answer : Except Node.Fault Node.Receipt}
      {result : Except NetworkError Deployment} : Reports deployer balance answer result →
      Course node chain deployer bytecode
        (opening node chain deployer balance bytecode t ++
          [⟨⟨node, .send t⟩, .ok hash⟩, ⟨⟨node, .receipt hash⟩, answer⟩]) result

def confirm (node : Url) (deployer : Address) (balance : Word) (hash : Hash) : Node.Attempt Deployment := do
  let receipt ← Node.ask node (trying "Failed to get deployment receipt") (.receipt hash)
  if !receipt.succeeded then throw (.reverted receipt.transaction.text)
  else
    match receipt.created with
    | some address => return ⟨address, receipt.transaction, deployer, balance⟩
    | none => throw (.contractCall "Deployment receipt has no contract address")

theorem create_eq :
    create node chain deployer bytecode = (do
      Node.requireChain node chain
      let balance ← Node.ask node Node.plainly (.balance deployer)
      let hash ← Node.send node (trying "Failed to send deployment") ⟨deployer, none, bytecode⟩
      confirm node deployer balance hash) := rfl

variable {balance : Word} {hash : Hash}

theorem only_confirm {kind : Query → Prop} (h : kind ⟨node, .receipt hash⟩) :
    (confirm node deployer balance hash).run.Only kind := by
  refine Only.attempt_bind (Node.only_ask h) fun receipt => ?_
  split
  · exact .done _
  · split <;> exact .done _

theorem reports_of_runs (hr : Runs (confirm node deployer balance hash).run exchanges result) :
    ∃ answer, exchanges = [⟨⟨node, .receipt hash⟩, answer⟩] ∧ Reports deployer balance answer result := by
  rw [confirm, Dialogue.runs_attempt_bind_iff] at hr
  rcases hr with ⟨e, hfailed, rfl⟩ | ⟨first, receipt, _, rfl, hfirst, hr⟩
  · obtain ⟨answer, rfl, hanswer⟩ := Node.runs_ask_iff.1 hfailed
    cases answer with
    | ok receipt => cases hanswer
    | error fault =>
      cases hanswer
      exact ⟨_, rfl, .unanswered fault⟩
  obtain rfl := Node.runs_ask_ok_iff.1 hfirst
  refine ⟨.ok receipt, ?_⟩
  split at hr
  · next hfailed =>
    obtain ⟨rfl, rfl⟩ := Dialogue.runs_done_iff.1 hr
    exact ⟨rfl, .reverted (by simpa using hfailed)⟩
  · next hsucceeded =>
    have hsucceeded : receipt.succeeded = true := by simpa using hsucceeded
    split at hr
    · next address hcreated =>
      obtain ⟨rfl, rfl⟩ := Dialogue.runs_done_iff.1 hr
      exact ⟨rfl, .deployed hsucceeded hcreated⟩
    · next hcreated =>
      obtain ⟨rfl, rfl⟩ := Dialogue.runs_done_iff.1 hr
      exact ⟨rfl, .nowhere hsucceeded hcreated⟩

theorem guarded_create :
    Guarded Query.submission?
      (fun earlier s => s.Fulfils node ⟨deployer, none, bytecode⟩ ∧
        ∃ balance, earlier = opening node chain deployer balance bytecode s.transaction)
      (create node chain deployer bytecode) := by
  rw [create_eq]
  refine .after (Node.only_requireChain rfl) fun _ _ hchain => ?_
  refine .after (Node.only_ask rfl) fun _ balance hbalance => ?_
  rw [Node.runs_requireChain_ok.1 hchain, Node.runs_ask_ok_iff.1 hbalance]
  refine Guarded.before (Node.guarded_send_filled.mono fun earlier s h => ⟨h.1, balance, ?_⟩) fun hash => ?_
  · rw [h.2]
    rfl
  · exact only_confirm rfl

theorem course_of_runs (hr : Runs (create node chain deployer bytecode).run exchanges result) :
    Course node chain deployer bytecode exchanges result := by
  have hchain : (Node.requireChain node chain).run.Only Query.NoReceipt := Node.only_requireChain nofun
  have hbalance : (Node.ask node Node.plainly (.balance deployer)).run.Only Query.NoReceipt := Node.only_ask nofun
  rw [create_eq, Dialogue.runs_attempt_bind_iff] at hr
  rcases hr with ⟨e, hfailed, rfl⟩ | ⟨first, _, _, rfl, hfirst, hr⟩
  · exact .failed (hchain.of_runs hfailed)
  rw [Dialogue.runs_attempt_bind_iff] at hr
  rcases hr with ⟨e, hfailed, rfl⟩ | ⟨second, balance, _, rfl, hsecond, hr⟩
  · exact .failed (List.forall_mem_append.2 ⟨hchain.of_runs hfirst, hbalance.of_runs hfailed⟩)
  rw [Dialogue.runs_attempt_bind_iff] at hr
  rcases hr with ⟨e, hfailed, rfl⟩ | ⟨third, hash, _, rfl, hthird, hr⟩
  · exact .failed (List.forall_mem_append.2 ⟨hchain.of_runs hfirst,
      List.forall_mem_append.2 ⟨hbalance.of_runs hsecond, Node.noReceipt_send.of_runs hfailed⟩⟩)
  obtain ⟨t, rfl⟩ := Node.of_runs_send_ok hthird
  obtain ⟨answer, rfl, hreports⟩ := reports_of_runs hr
  rw [Node.runs_requireChain_ok.1 hfirst, Node.runs_ask_ok_iff.1 hsecond]
  exact .asked hreports

theorem deploy_eq_create {signing : Key} (hnode : Url.read rpc = .ok node) (hkey : Key.read key = .ok signing) :
    deploy rpc chain key bytecode = create node chain signing.account bytecode := by
  rw [deploy, Node.readUrl_eq_ok_iff.2 hnode, Node.readKey_eq_ok_iff.2 hkey]
  rfl

theorem deploy_eq_throw (h : ¬ ∃ node signing, Url.read rpc = .ok node ∧ Key.read key = .ok signing) :
    ∃ e, deploy rpc chain key bytecode = throw e := by
  cases hnode : Node.readUrl rpc with
  | error e => exact ⟨e, by rw [deploy, hnode]; rfl⟩
  | ok node =>
    cases hkey : Node.readKey key with
    | error e => exact ⟨e, by rw [deploy, hnode, hkey]; rfl⟩
    | ok signing => exact absurd ⟨node, signing, Node.readUrl_eq_ok_iff.1 hnode, Node.readKey_eq_ok_iff.1 hkey⟩ h

theorem guarded_deploy :
    Guarded Query.submission?
      (fun earlier s => ∃ node signing balance, Url.read rpc = .ok node ∧ Key.read key = .ok signing ∧
        s.Fulfils node ⟨signing.account, none, bytecode⟩ ∧
        earlier = opening node chain signing.account balance bytecode s.transaction)
      (deploy rpc chain key bytecode) := by
  by_cases h : ∃ node signing, Url.read rpc = .ok node ∧ Key.read key = .ok signing
  · obtain ⟨node, signing, hnode, hkey⟩ := h
    rw [deploy_eq_create hnode hkey]
    exact guarded_create.mono fun earlier s ⟨hs, balance, hearlier⟩ =>
      ⟨node, signing, balance, hnode, hkey, hs, hearlier⟩
  · obtain ⟨e, he⟩ := deploy_eq_throw h
    rw [he]
    intro exchanges result hr
    obtain ⟨rfl, rfl⟩ := Dialogue.runs_done_iff.1 hr
    exact .refused (by simp [Dialogue.Harmless])

theorem noReceipt_opening {t : Node.Transaction} :
    ∀ x ∈ opening node chain deployer balance bytecode t, x.1.NoReceipt := by
  simp [opening, Node.filling, Node.Query.NoReceipt]

theorem Course.reports_of_mem {node' : Url} {answer : Except Node.Fault Node.Receipt}
    (h : Course node chain deployer bytecode exchanges result)
    (hx : ⟨⟨node', .receipt hash⟩, answer⟩ ∈ exchanges) : ∃ balance, Reports deployer balance answer result := by
  cases h with
  | failed hnone => exact absurd rfl (hnone _ hx hash)
  | @asked balance t hash' answer' _ hreports =>
    rcases List.mem_append.1 hx with hopening | hend
    · exact absurd rfl (noReceipt_opening _ hopening hash)
    · rcases List.mem_cons.1 hend with hsend | hreceipt
      · cases hsend
      · rw [List.mem_singleton] at hreceipt
        cases hreceipt
        exact ⟨balance, hreports⟩

theorem Course.of_ok {d : Deployment} (h : Course node chain deployer bytecode exchanges (.ok d)) :
    ∃ t hash receipt, exchanges = opening node chain deployer d.deployerBalance bytecode t ++
        [⟨⟨node, .send t⟩, .ok hash⟩, ⟨⟨node, .receipt hash⟩, .ok receipt⟩] ∧
      receipt.succeeded = true ∧ receipt.created = some d.address ∧ receipt.transaction = d.transaction := by
  cases h with
  | asked hreports =>
    cases hreports with
    | deployed hsucceeded hcreated => exact ⟨_, _, _, rfl, hsucceeded, hcreated, rfl⟩

end Deployment
end TokenBridge
