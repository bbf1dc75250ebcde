import TokenBridge.Proofs.Dialogue

namespace TokenBridge.Dialogue

variable {Query : Type} {Answer : Query → Type} {α β ε Item : Type}

def Harmless (commits : Query → Option Item) (exchanges : List (Exchange Query Answer)) : Prop :=
  ∀ x ∈ exchanges, commits x.1 = none

inductive Outcome (commits : Query → Option Item)
    (permits : List (Exchange Query Answer) → Item → Prop) :
    List (Exchange Query Answer) → Except ε α → Prop
  | refused {exchanges : List (Exchange Query Answer)} {e : ε} :
      Harmless commits exchanges → Outcome commits permits exchanges (.error e)
  | committed {earlier later : List (Exchange Query Answer)} {x : Exchange Query Answer} {item : Item}
      {result : Except ε α} :
      Harmless commits earlier → commits x.1 = some item → permits earlier item →
        Harmless commits later → Outcome commits permits (earlier ++ x :: later) result

def Guarded (commits : Query → Option Item) (permits : List (Exchange Query Answer) → Item → Prop)
    (x : ExceptT ε (Dialogue Query Answer) α) : Prop :=
  ∀ exchanges result, Runs x.run exchanges result → Outcome commits permits exchanges result

variable {commits : Query → Option Item} {permits permits' : List (Exchange Query Answer) → Item → Prop}
  {exchanges first second : List (Exchange Query Answer)}

theorem harmless_append :
    Harmless commits (first ++ second) ↔ Harmless commits first ∧ Harmless commits second :=
  List.forall_mem_append

theorem Harmless.not_mem {x : Exchange Query Answer} {item : Item} (h : Harmless commits exchanges)
    (hx : commits x.1 = some item) : x ∉ exchanges := by
  intro hmem
  have hnone := h x hmem
  rw [hx] at hnone
  cases hnone

theorem eq_of_split {earlier earlier' later later' : List (Exchange Query Answer)}
    {x y : Exchange Query Answer} {item : Item} (he : Harmless commits earlier)
    (hl : Harmless commits later) (hy : commits y.1 = some item)
    (hsplit : earlier ++ x :: later = earlier' ++ y :: later') : earlier = earlier' ∧ x = y := by
  rcases List.append_eq_append_iff.1 hsplit with ⟨between, rfl, hrest⟩ | ⟨between, rfl, hrest⟩
  · cases between with
    | nil => exact ⟨(List.append_nil _).symm, (List.cons.inj hrest).1⟩
    | cons z between =>
      obtain ⟨-, rfl⟩ := List.cons.inj hrest
      exact absurd (by simp) (hl.not_mem hy)
  · cases between with
    | nil => exact ⟨List.append_nil _, (List.cons.inj hrest).1.symm⟩
    | cons z between =>
      obtain ⟨rfl, -⟩ := List.cons.inj hrest
      exact absurd (by simp) (he.not_mem hy)

theorem Harmless.filterMap_eq_nil (h : Harmless commits exchanges) :
    exchanges.filterMap (fun x => commits x.1) = [] :=
  List.filterMap_eq_nil_iff.2 h

namespace Outcome

variable {result : Except ε α}

theorem mono (h : Outcome commits permits exchanges result)
    (hp : ∀ earlier item, permits earlier item → permits' earlier item) :
    Outcome commits permits' exchanges result := by
  cases h with
  | refused hs => exact .refused hs
  | committed he hx hi hl => exact .committed he hx (hp _ _ hi) hl

theorem prepend (hf : Harmless commits first)
    (h : Outcome commits (fun earlier => permits (first ++ earlier)) exchanges result) :
    Outcome commits permits (first ++ exchanges) result := by
  cases h with
  | refused hs => exact .refused (harmless_append.2 ⟨hf, hs⟩)
  | committed he hx hi hl =>
    rw [← List.append_assoc]
    exact .committed (harmless_append.2 ⟨hf, he⟩) hx hi hl

theorem append {result' : Except ε β} (h : Outcome commits permits first result) {a : α}
    (hok : result = .ok a) (hs : Harmless commits second) :
    Outcome commits permits (first ++ second) result' := by
  cases h with
  | refused => cases hok
  | committed he hx hi hl =>
    rw [List.append_assoc, List.cons_append]
    exact .committed he hx hi (harmless_append.2 ⟨hl, hs⟩)

theorem length_le_one (h : Outcome commits permits exchanges result) :
    (exchanges.filterMap fun x => commits x.1).length ≤ 1 := by
  cases h with
  | refused hs => simp [hs.filterMap_eq_nil]
  | committed he hx _ hl =>
    simp [List.filterMap_append, he.filterMap_eq_nil, hl.filterMap_eq_nil, hx]

theorem eq_error (h : Outcome commits permits exchanges result) (hs : Harmless commits exchanges) :
    ∃ e, result = .error e := by
  cases h with
  | refused => exact ⟨_, rfl⟩
  | committed _ hx => exact absurd (by simp) (hs.not_mem hx)

theorem harmless (h : Outcome commits permits exchanges result)
    (hnot : ∀ earlier later item, exchanges = earlier ++ later → ¬ permits earlier item) :
    Harmless commits exchanges := by
  cases h with
  | refused hs => exact hs
  | committed _ _ hi _ => exact absurd hi (hnot _ _ _ rfl)

theorem permits_of_split (h : Outcome commits permits exchanges result)
    {earlier later : List (Exchange Query Answer)} {x : Exchange Query Answer} {item : Item}
    (hsplit : exchanges = earlier ++ x :: later) (hx : commits x.1 = some item) :
    permits earlier item := by
  cases h with
  | refused hs => exact absurd (by simp [hsplit]) (hs.not_mem hx)
  | committed he hy hi hl =>
    obtain ⟨rfl, rfl⟩ := eq_of_split he hl hx hsplit
    rw [hx, Option.some.injEq] at hy
    exact hy ▸ hi

end Outcome

namespace Guarded

variable {x : ExceptT ε (Dialogue Query Answer) α} {f : α → ExceptT ε (Dialogue Query Answer) β}

theorem mono (h : Guarded commits permits x)
    (hp : ∀ earlier item, permits earlier item → permits' earlier item) : Guarded commits permits' x :=
  fun exchanges result hr => (h exchanges result hr).mono hp

theorem ask {query : Query} {f : Answer query → ExceptT ε (Dialogue Query Answer) α} (hquery : commits query = none)
    (hf : ∀ answer, Guarded commits (fun earlier => permits (⟨query, answer⟩ :: earlier)) (f answer)) :
    Guarded commits permits (ExceptT.mk (.ask query fun answer => (f answer).run)) := by
  intro exchanges result hr
  obtain ⟨answer, rest, rfl, hrest⟩ := runs_ask_iff.1 hr
  have hfirst : Harmless commits [(⟨query, answer⟩ : Exchange Query Answer)] := List.forall_mem_singleton.2 hquery
  exact .prepend hfirst (hf answer rest result hrest)

theorem after (hx : x.run.Only fun query => commits query = none)
    (hf : ∀ first a, Runs x.run first (.ok a) →
      Guarded commits (fun earlier => permits (first ++ earlier)) (f a)) :
    Guarded commits permits (x >>= f) := by
  intro exchanges result hr
  rcases runs_attempt_bind_iff.1 hr with ⟨e, he, rfl⟩ | ⟨first, a, second, rfl, hfirst, hsecond⟩
  · exact .refused (hx.of_runs he)
  · exact .prepend (hx.of_runs hfirst) (hf first a hfirst second result hsecond)

theorem before (hx : Guarded commits permits x)
    (hf : ∀ a, (f a).run.Only fun query => commits query = none) :
    Guarded commits permits (x >>= f) := by
  intro exchanges result hr
  rcases runs_attempt_bind_iff.1 hr with ⟨e, he, rfl⟩ | ⟨first, a, second, rfl, hfirst, hsecond⟩
  · cases hx _ _ he with
    | refused hs => exact .refused hs
    | committed hs hy hi hl => exact .committed hs hy hi hl
  · exact (hx _ _ hfirst).append rfl ((hf a).of_runs hsecond)

end Guarded

end TokenBridge.Dialogue
