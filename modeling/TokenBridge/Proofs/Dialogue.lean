import TokenBridge.Dialogue

namespace TokenBridge.Dialogue

variable {Query : Type} {Answer : Query → Type} {α β ε : Type}

theorem runs_done_iff {a b : α} {exchanges : List (Exchange Query Answer)} :
    Runs (.done a) exchanges b ↔ exchanges = [] ∧ b = a := by
  constructor
  · intro h
    cases h
    exact ⟨rfl, rfl⟩
  · rintro ⟨rfl, rfl⟩
    exact .done _

theorem runs_ask_iff {query : Query} {next : Answer query → Dialogue Query Answer α}
    {exchanges : List (Exchange Query Answer)} {b : α} :
    Runs (.ask query next) exchanges b ↔
      ∃ answer rest, exchanges = ⟨query, answer⟩ :: rest ∧ Runs (next answer) rest b := by
  constructor
  · intro h
    cases h with
    | ask h => exact ⟨_, _, rfl, h⟩
  · rintro ⟨answer, rest, rfl, h⟩
    exact .ask h

theorem runs_bind_iff {d : Dialogue Query Answer α} {f : α → Dialogue Query Answer β}
    {exchanges : List (Exchange Query Answer)} {b : β} :
    Runs (d >>= f) exchanges b ↔
      ∃ first a second, exchanges = first ++ second ∧ Runs d first a ∧ Runs (f a) second b := by
  induction d generalizing exchanges with
  | done a =>
    simp only [done_bind, runs_done_iff]
    constructor
    · intro h
      exact ⟨[], a, exchanges, rfl, ⟨rfl, rfl⟩, h⟩
    · rintro ⟨first, a', second, rfl, ⟨rfl, rfl⟩, h⟩
      exact h
  | ask query next ih =>
    simp only [ask_bind, runs_ask_iff]
    constructor
    · rintro ⟨answer, rest, rfl, h⟩
      obtain ⟨first, a, second, rfl, hd, hf⟩ := (ih answer).1 h
      exact ⟨⟨query, answer⟩ :: first, a, second, rfl, ⟨answer, first, rfl, hd⟩, hf⟩
    · rintro ⟨first, a, second, rfl, ⟨answer, rest, rfl, hd⟩, hf⟩
      exact ⟨answer, rest ++ second, rfl, (ih answer).2 ⟨rest, a, second, rfl, hd, hf⟩⟩

theorem runs_bind_done_iff {d : Dialogue Query Answer α} {f : α → β} {exchanges : List (Exchange Query Answer)}
    {b : β} :
    Runs (d >>= fun a => .done (f a)) exchanges b ↔ ∃ a, Runs d exchanges a ∧ b = f a := by
  rw [runs_bind_iff]
  constructor
  · rintro ⟨first, a, second, rfl, hd, hdone⟩
    obtain ⟨rfl, rfl⟩ := runs_done_iff.1 hdone
    exact ⟨a, by rwa [List.append_nil], rfl⟩
  · rintro ⟨a, hd, rfl⟩
    exact ⟨exchanges, a, [], (List.append_nil _).symm, hd, .done _⟩

theorem answered_bind (answer : (query : Query) → Answer query) (d : Dialogue Query Answer α)
    (f : α → Dialogue Query Answer β) :
    (d >>= f).answered answer =
      ((d.answered answer).1 ++ ((f (d.answered answer).2).answered answer).1,
        ((f (d.answered answer).2).answered answer).2) := by
  induction d with
  | done a => rfl
  | ask query next ih => simp only [ask_bind, answered, ih, List.cons_append]

theorem mem_answered {answer : (query : Query) → Answer query} {d : Dialogue Query Answer α}
    {x : Exchange Query Answer} (hx : x ∈ (d.answered answer).1) : x.2 = answer x.1 := by
  induction d with
  | done a => cases hx
  | ask query next ih =>
    rcases List.mem_cons.1 hx with rfl | hrest
    · rfl
    · exact ih _ hrest

theorem runs_attempt_bind_iff {x : ExceptT ε (Dialogue Query Answer) α}
    {f : α → ExceptT ε (Dialogue Query Answer) β} {exchanges : List (Exchange Query Answer)}
    {result : Except ε β} :
    Runs (x >>= f).run exchanges result ↔
      (∃ e, Runs x.run exchanges (.error e) ∧ result = .error e) ∨
      ∃ first a second, exchanges = first ++ second ∧ Runs x.run first (.ok a) ∧
        Runs (f a).run second result := by
  rw [ExceptT.run_bind, runs_bind_iff]
  constructor
  · rintro ⟨first, r, second, rfl, hx, hf⟩
    cases r with
    | ok a => exact .inr ⟨first, a, second, rfl, hx, hf⟩
    | error e =>
      obtain ⟨rfl, rfl⟩ := runs_done_iff.1 hf
      exact .inl ⟨e, by simpa using hx, rfl⟩
  · rintro (⟨e, hx, rfl⟩ | ⟨first, a, second, rfl, hx, hf⟩)
    · exact ⟨exchanges, .error e, [], by simp, hx, .done _⟩
    · exact ⟨first, .ok a, second, rfl, hx, hf⟩

theorem runs_attempt_bind_ok_iff {x : ExceptT ε (Dialogue Query Answer) α}
    {f : α → ExceptT ε (Dialogue Query Answer) β} {exchanges : List (Exchange Query Answer)} {b : β} :
    Runs (x >>= f).run exchanges (.ok b) ↔
      ∃ first a second, exchanges = first ++ second ∧ Runs x.run first (.ok a) ∧
        Runs (f a).run second (.ok b) := by
  rw [runs_attempt_bind_iff]
  constructor
  · rintro (⟨e, -, he⟩ | h)
    · cases he
    · exact h
  · exact .inr

inductive Only (kind : Query → Prop) : Dialogue Query Answer α → Prop
  | done (a : α) : Only kind (.done a)
  | ask {query : Query} {next : Answer query → Dialogue Query Answer α} :
      kind query → (∀ answer, Only kind (next answer)) → Only kind (.ask query next)

variable {kind : Query → Prop}

theorem Only.of_runs {d : Dialogue Query Answer α} {exchanges : List (Exchange Query Answer)} {a : α}
    (hd : d.Only kind) (hr : Runs d exchanges a) : ∀ x ∈ exchanges, kind x.1 := by
  induction hr with
  | done => simp
  | ask _ ih =>
    intro x hx
    cases hd with
    | ask hquery hnext =>
      rcases List.mem_cons.1 hx with rfl | hx
      · exact hquery
      · exact ih (hnext _) x hx

theorem Only.bind {d : Dialogue Query Answer α} {f : α → Dialogue Query Answer β}
    (hd : d.Only kind) (hf : ∀ a, (f a).Only kind) : (d >>= f).Only kind := by
  induction hd with
  | done a => exact hf a
  | ask hquery _ ih => exact .ask hquery ih

theorem Only.attempt_bind {x : ExceptT ε (Dialogue Query Answer) α}
    {f : α → ExceptT ε (Dialogue Query Answer) β} (hx : x.run.Only kind)
    (hf : ∀ a, (f a).run.Only kind) : (x >>= f).run.Only kind := by
  rw [ExceptT.run_bind]
  refine hx.bind fun result => ?_
  cases result with
  | ok a => exact hf a
  | error e => exact .done _

end TokenBridge.Dialogue
