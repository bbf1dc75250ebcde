import TokenBridge.Command.Run
import TokenBridge.Proofs.Evm.Client
import TokenBridge.Proofs.Except
import TokenBridge.Proofs.Stellar.Destination

namespace TokenBridge.Command

open Dialogue (Runs Only Guarded Harmless)
open Stellar (Asset Horizon)

def Query.submission? : Query → Option Node.Submission
  | .node query => query.submission?
  | _ => none

def submissions (exchanges : List (Exchange Query Answer)) : List Node.Submission :=
  exchanges.filterMap fun x => x.1.submission?

theorem mem_submissions_iff {exchanges : List (Exchange Query Answer)} {s : Node.Submission} :
    s ∈ submissions exchanges ↔ ∃ answer, ⟨.node ⟨s.node, .send s.transaction⟩, answer⟩ ∈ exchanges := by
  rw [submissions, List.mem_filterMap]
  constructor
  · rintro ⟨⟨query, answer⟩, hx, hs⟩
    cases query with
    | node query =>
      obtain ⟨node, question⟩ := query
      cases question with
      | send t =>
        cases hs
        exact ⟨answer, hx⟩
      | _ => cases hs
    | _ => cases hs
  · rintro ⟨answer, hx⟩
    exact ⟨_, hx, rfl⟩

def withNode (x : Exchange Node.Query Node.Answer) : Exchange Query Answer :=
  ⟨.node x.1, x.2⟩

theorem mem_map_withNode {inner : List (Exchange Node.Query Node.Answer)} {query : Node.Query}
    {answer : Node.Answer query} : ⟨.node query, answer⟩ ∈ inner.map withNode ↔ ⟨query, answer⟩ ∈ inner := by
  constructor
  · intro h
    obtain ⟨x, hx, heq⟩ := List.mem_map.1 h
    cases heq
    exact hx
  · exact List.mem_map_of_mem

variable {α ε : Type} {exchanges : List (Exchange Query Answer)}

theorem runs_relay_iff {talk : Node.Talk α} {a : α} :
    Runs (talk.relay fun query => .ask (.node query) .done : Talk α) exchanges a ↔
      ∃ inner, exchanges = inner.map withNode ∧ Runs talk inner a := by
  induction talk generalizing exchanges with
  | done b =>
    constructor
    · intro h
      obtain ⟨rfl, rfl⟩ := Dialogue.runs_done_iff.1 h
      exact ⟨[], rfl, .done _⟩
    · rintro ⟨inner, rfl, h⟩
      obtain ⟨rfl, rfl⟩ := Dialogue.runs_done_iff.1 h
      exact .done _
  | ask query next ih =>
    constructor
    · intro h
      obtain ⟨answer, rest, rfl, hrest⟩ := Dialogue.runs_ask_iff.1 h
      obtain ⟨inner, rfl, hinner⟩ := (ih answer).1 hrest
      exact ⟨⟨query, answer⟩ :: inner, rfl, .ask hinner⟩
    · rintro ⟨inner, rfl, h⟩
      obtain ⟨answer, rest, rfl, hrest⟩ := Dialogue.runs_ask_iff.1 h
      exact .ask ((ih answer).2 ⟨rest, rfl, hrest⟩)

theorem runs_remotely_iff {talk : Node.Attempt α} {result : Except Failure α} :
    Runs (remotely talk).run exchanges result ↔
      ∃ inner answer, exchanges = inner.map withNode ∧ Runs talk.run inner answer ∧
        result = answer.mapError .network := by
  rw [remotely, ExceptT.run_mk, Dialogue.runs_bind_iff]
  constructor
  · rintro ⟨first, answer, second, rfl, hrelay, hdone⟩
    obtain ⟨inner, rfl, h⟩ := runs_relay_iff.1 hrelay
    obtain ⟨rfl, rfl⟩ := Dialogue.runs_done_iff.1 hdone
    exact ⟨inner, answer, List.append_nil _, h, rfl⟩
  · rintro ⟨inner, answer, rfl, h, rfl⟩
    exact ⟨_, answer, [], (List.append_nil _).symm, runs_relay_iff.2 ⟨inner, rfl, h⟩, .done _⟩

theorem of_runs_remotely {talk : Node.Attempt α} {a : α} (hr : Runs (remotely talk).run exchanges (.ok a)) :
    ∃ inner, exchanges = inner.map withNode ∧ Runs talk.run inner (.ok a) := by
  obtain ⟨inner, answer, rfl, h, hok⟩ := runs_remotely_iff.1 hr
  rw [mapError_eq_ok_iff.1 hok.symm] at h
  exact ⟨inner, rfl, h⟩

theorem of_runs_decided {failure : ε → Failure} {result : Except ε α} {a : α}
    (hr : Runs (decided failure result).run exchanges (.ok a)) : exchanges = [] ∧ result = .ok a := by
  obtain ⟨rfl, hok⟩ := Dialogue.runs_done_iff.1 hr
  exact ⟨rfl, mapError_eq_ok_iff.1 hok.symm⟩

@[simp] theorem decided_ok_bind (failure : ε → Failure) {β : Type} (a : α) (f : α → Attempt β) :
    (decided failure (.ok a) >>= f) = f a := rfl

@[simp] theorem decided_error_bind (failure : ε → Failure) {β : Type} (e : ε) (f : α → Attempt β) :
    (decided failure (.error e) >>= f) = throw (failure e) := rfl

@[simp] theorem remotely_throw_bind {β : Type} (e : NetworkError) (f : α → Attempt β) :
    (remotely (throw e) >>= f) = throw (.network e) := rfl

theorem runs_say_iff {line : String} {result : Except Failure Unit} :
    Runs (say line).run exchanges result ↔ exchanges = [⟨.print line, ()⟩] ∧ result = .ok () := by
  rw [say, ExceptT.run_mk, Dialogue.runs_ask_iff]
  constructor
  · rintro ⟨_, rest, rfl, hdone⟩
    obtain ⟨rfl, rfl⟩ := Dialogue.runs_done_iff.1 hdone
    exact ⟨rfl, rfl⟩
  · rintro ⟨rfl, rfl⟩
    exact ⟨(), [], rfl, .done _⟩

theorem runs_say_bind_iff {line : String} {f : Unit → Attempt α} {result : Except Failure α} :
    Runs (say line >>= f).run exchanges result ↔
      ∃ rest, exchanges = ⟨.print line, ()⟩ :: rest ∧ Runs (f ()).run rest result := by
  rw [Dialogue.runs_attempt_bind_iff]
  constructor
  · rintro (⟨e, hsay, -⟩ | ⟨first, _, rest, rfl, hsay, hrest⟩)
    · cases (runs_say_iff.1 hsay).2
    · exact ⟨rest, by rw [(runs_say_iff.1 hsay).1]; rfl, hrest⟩
  · rintro ⟨rest, rfl, hrest⟩
    exact .inr ⟨[_], (), rest, rfl, runs_say_iff.2 ⟨rfl, rfl⟩, hrest⟩

section Only

variable {kind : Query → Prop}

theorem only_decided (failure : ε → Failure) (result : Except ε α) : (decided failure result).run.Only kind :=
  .done _

theorem only_say {line : String} (h : kind (.print line)) : (say line).run.Only kind :=
  .ask h fun _ => .done _

theorem only_forM_say {β : Type} {line : β → String} (h : ∀ line, kind (.print line)) (items : List β) :
    (items.forM fun item => say (line item)).run.Only kind := by
  induction items with
  | nil => exact .done _
  | cons item items ih => exact Only.attempt_bind (only_say (h _)) fun _ => ih

theorem only_relay {talk : Node.Talk α} (h : talk.Only fun query => kind (.node query)) :
    (talk.relay fun query => .ask (.node query) .done : Talk α).Only kind := by
  induction h with
  | done => exact .done _
  | ask hquery _ ih => exact .ask hquery ih

theorem only_remotely {talk : Node.Attempt α} (h : talk.run.Only fun query => kind (.node query)) :
    (remotely talk).run.Only kind :=
  (only_relay h).bind fun _ => .done _

theorem only_lookUp {horizon : Horizon} {asset : Asset} {destination : String}
    (h : ∀ url, kind (.fetch url)) : (lookUp horizon asset destination).run.Only kind := by
  refine Only.bind ?_ fun _ => .done _
  rw [Stellar.Destination.validate]
  split
  · exact .done _
  · refine Only.bind ?_ fun _ => .done _
    rw [Horizon.account]
    split
    · exact .done _
    · exact .ask (h _) fun _ => .done _

end Only

theorem of_runs_lookUp {horizon : Horizon} {asset : Asset} {destination address : String}
    (hr : Runs (lookUp horizon asset destination).run exchanges (.ok address)) :
    address = Text.trim destination ∧ ∃ url answer account, horizon.accountUrl address = .ok url ∧
      exchanges = [⟨.fetch url, answer⟩] ∧ Horizon.judge address answer = .ok account ∧
        account.trusts asset := by
  rw [lookUp, ExceptT.run_mk, Dialogue.runs_bind_iff] at hr
  obtain ⟨first, result, second, rfl, hvalidate, hdone⟩ := hr
  obtain ⟨rfl, hok⟩ := Dialogue.runs_done_iff.1 hdone
  obtain rfl := mapError_eq_ok_iff.1 hok.symm
  obtain ⟨htrim, account, haccount, htrusts⟩ := Stellar.Destination.of_runs_validate_ok hvalidate
  refine ⟨htrim, ?_⟩
  rw [Horizon.account] at haccount
  split at haccount
  · obtain ⟨-, he⟩ := Dialogue.runs_done_iff.1 haccount
    cases he
  · next url hurl =>
    obtain ⟨answer, rest, rfl, hanswer⟩ := Dialogue.runs_ask_iff.1 haccount
    obtain ⟨rfl, hfound⟩ := Dialogue.runs_done_iff.1 hanswer
    exact ⟨url, answer, account, hurl, by simp, hfound.symm, htrusts⟩

theorem guarded_remotely {permits : List (Exchange Query Answer) → Node.Submission → Prop}
    {talk : Node.Attempt α}
    (h : Guarded Node.Query.submission? (fun inner => permits (inner.map withNode)) talk) :
    Guarded Query.submission? permits (remotely talk) := by
  intro exchanges result hr
  obtain ⟨inner, answer, rfl, htalk, rfl⟩ := runs_remotely_iff.1 hr
  have hharmless : ∀ {inner : List (Exchange Node.Query Node.Answer)},
      Harmless Node.Query.submission? inner → Harmless Query.submission? (inner.map withNode) := by
    intro inner hi
    exact List.forall_mem_map.2 hi
  cases h inner answer htalk with
  | refused hs => exact .refused (hharmless hs)
  | committed he hx hp hl =>
    rw [List.map_append, List.map_cons]
    exact .committed (hharmless he) hx hp (hharmless hl)

end TokenBridge.Command
