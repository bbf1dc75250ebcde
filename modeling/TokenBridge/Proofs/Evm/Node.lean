import TokenBridge.Evm.Node
import TokenBridge.Proofs.Guarded

namespace TokenBridge.Node

open Dialogue (Runs Only Guarded Harmless Outcome)

structure Submission where
  node : Url
  transaction : Transaction

def Query.submission? (q : Query) : Option Submission :=
  match q.question with
  | .send transaction => some ⟨q.node, transaction⟩
  | _ => none

def Query.NoReceipt (q : Query) : Prop :=
  ∀ hash, q.question ≠ .receipt hash

structure Submission.Fulfils (s : Submission) (node : Url) (draft : Draft) : Prop where
  node : s.node = node
  sender : s.transaction.sender = draft.sender
  receiver : s.transaction.receiver = draft.receiver
  input : s.transaction.input = draft.input
  value : s.transaction.value = Word.zero

variable {α : Type} {node : Url} {blame : Fault → NetworkError} {question : Question}
  {exchanges : List (Exchange Query Answer)}

theorem readUrl_eq_ok_iff {s : String} : readUrl s = .ok node ↔ Url.read s = .ok node := by
  rw [readUrl]
  split
  · next url hurl => simp [hurl]
  · next e he => simp [he]

theorem readKey_eq_ok_iff {s : String} {key : Key} : readKey s = .ok key ↔ Key.read s = .ok key := by
  rw [readKey]
  split
  · next k hk => simp [hk]
  · next e he => simp [he]

theorem runs_decided_iff {result result' : Except NetworkError α} :
    Runs (decided result).run exchanges result' ↔ exchanges = [] ∧ result' = result :=
  Dialogue.runs_done_iff

theorem runs_ask_iff {result : Except NetworkError question.Value} :
    Runs (ask node blame question).run exchanges result ↔
      ∃ answer, exchanges = [⟨⟨node, question⟩, answer⟩] ∧ result = answer.mapError blame := by
  rw [ask, ExceptT.run_mk, Dialogue.runs_ask_iff]
  simp only [Dialogue.runs_done_iff]
  constructor
  · rintro ⟨answer, rest, rfl, rfl, rfl⟩
    exact ⟨answer, rfl, rfl⟩
  · rintro ⟨answer, rfl, rfl⟩
    exact ⟨answer, [], rfl, rfl, rfl⟩

theorem runs_ask_ok_iff {v : question.Value} :
    Runs (ask node blame question).run exchanges (.ok v) ↔ exchanges = [⟨⟨node, question⟩, .ok v⟩] := by
  rw [runs_ask_iff]
  constructor
  · rintro ⟨answer, rfl, h⟩
    cases answer with
    | ok v' =>
      cases h
      rfl
    | error e => cases h
  · rintro rfl
    exact ⟨.ok v, rfl, rfl⟩

theorem runs_ask_bind_ok_iff {f : question.Value → Attempt α} {a : α} :
    Runs (ask node blame question >>= f).run exchanges (.ok a) ↔
      ∃ v rest, exchanges = ⟨⟨node, question⟩, .ok v⟩ :: rest ∧ Runs (f v).run rest (.ok a) := by
  rw [Dialogue.runs_attempt_bind_ok_iff]
  constructor
  · rintro ⟨first, v, rest, rfl, hask, hrest⟩
    exact ⟨v, rest, by rw [runs_ask_ok_iff.1 hask]; rfl, hrest⟩
  · rintro ⟨v, rest, rfl, hrest⟩
    exact ⟨[_], v, rest, rfl, runs_ask_ok_iff.2 rfl, hrest⟩

theorem runs_requireChain_ok {chain : Nat} :
    Runs (requireChain node chain).run exchanges (.ok ()) ↔ exchanges = [⟨⟨node, .chain⟩, .ok chain⟩] := by
  rw [requireChain, runs_ask_bind_ok_iff]
  constructor
  · rintro ⟨actual, rest, rfl, hcheck⟩
    split at hcheck
    · next heq =>
      obtain ⟨rfl, -⟩ := Dialogue.runs_done_iff.1 hcheck
      rw [heq]
    · obtain ⟨-, hthrow⟩ := Dialogue.runs_done_iff.1 hcheck
      cases hthrow
  · rintro rfl
    refine ⟨chain, [], rfl, ?_⟩
    rw [if_pos rfl]
    exact .done _

section Only

variable {kind : Query → Prop}

theorem only_decided (result : Except NetworkError α) : (decided result).run.Only kind :=
  .done _

theorem only_ask (h : kind ⟨node, question⟩) : (ask node blame question).run.Only kind :=
  .ask h fun _ => .done _

theorem only_requireChain {chain : Nat} (h : kind ⟨node, .chain⟩) : (requireChain node chain).run.Only kind :=
  (only_ask h).attempt_bind fun actual => by split <;> exact .done _

end Only

theorem guarded_ask_send {permits : List (Exchange Query Answer) → Submission → Prop} {t : Transaction}
    (h : permits [] ⟨node, t⟩) : Guarded Query.submission? permits (ask node blame (.send t)) := by
  intro exchanges result hr
  obtain ⟨answer, rfl, -⟩ := runs_ask_iff.1 hr
  have hnone : Harmless Query.submission? ([] : List (Exchange Query Answer)) := by simp [Harmless]
  have hsend : Query.submission? ⟨node, .send t⟩ = some ⟨node, t⟩ := rfl
  have houtcome : Outcome Query.submission? permits ([] ++ ⟨⟨node, .send t⟩, answer⟩ :: []) result :=
    .committed hnone hsend h hnone
  exact houtcome

def filling (node : Url) (draft : Draft) (t : Transaction) : List (Exchange Query Answer) :=
  [⟨⟨node, .chain⟩, .ok t.chain⟩, ⟨⟨node, .nonce draft.sender⟩, .ok t.nonce⟩,
    ⟨⟨node, .gas draft⟩, .ok t.gasLimit⟩, ⟨⟨node, .fees⟩, .ok t.fees⟩]

variable {draft : Draft}

theorem guarded_send_filled :
    Guarded Query.submission?
      (fun earlier s => s.Fulfils node draft ∧ earlier = filling node draft s.transaction)
      (send node blame draft) := by
  refine .after (only_ask rfl) fun _ chain hchain => ?_
  refine .after (only_ask rfl) fun _ nonce hnonce => ?_
  refine .after (only_ask rfl) fun _ gasLimit hgas => ?_
  refine .after (only_ask rfl) fun _ fees hfees => ?_
  rw [runs_ask_ok_iff.1 hchain, runs_ask_ok_iff.1 hnonce, runs_ask_ok_iff.1 hgas, runs_ask_ok_iff.1 hfees]
  exact guarded_ask_send ⟨⟨rfl, rfl, rfl, rfl, rfl⟩, rfl⟩

theorem of_runs_send_ok {hash : Hash} (hr : Runs (send node blame draft).run exchanges (.ok hash)) :
    ∃ t, exchanges = filling node draft t ++ [⟨⟨node, .send t⟩, .ok hash⟩] := by
  obtain ⟨chain, _, rfl, hnonce⟩ := runs_ask_bind_ok_iff.1 hr
  obtain ⟨nonce, _, rfl, hgas⟩ := runs_ask_bind_ok_iff.1 hnonce
  obtain ⟨gasLimit, _, rfl, hfees⟩ := runs_ask_bind_ok_iff.1 hgas
  obtain ⟨fees, _, rfl, hsend⟩ := runs_ask_bind_ok_iff.1 hfees
  rw [runs_ask_ok_iff.1 hsend]
  exact ⟨⟨_, _, _, nonce, chain, gasLimit, fees, _⟩, rfl⟩

theorem noReceipt_send : (send node blame draft).run.Only Query.NoReceipt := by
  refine (only_ask nofun).attempt_bind fun chain => ?_
  refine (only_ask nofun).attempt_bind fun nonce => ?_
  refine (only_ask nofun).attempt_bind fun gasLimit => ?_
  refine (only_ask nofun).attempt_bind fun fees => ?_
  exact only_ask nofun

end TokenBridge.Node
