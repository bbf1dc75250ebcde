import Mathlib.Data.List.Forall2
import TokenBridge.Json.Record

namespace TokenBridge.Json

def valuesAt (members : List Member) (name : String) : List Json :=
  (members.filter (·.1 = some name)).map (·.2)

def held (names : List String) : Json → List (List Json)
  | .object members => names.map (valuesAt members)
  | .array items => items.map ([·]) ++ List.replicate (names.length - items.length) []
  | _ => names.map fun _ => []

def Named (members : List Member) : Prop :=
  ∀ m ∈ members, m.1.isSome

/-- An object, or an array of at most so many fields. -/
def Shaped (count : Nat) : Json → Prop
  | .object members => Named members
  | .array items => items.length ≤ count
  | _ => False

/-- The ways of writing a text that may be missing. -/
inductive Optional : Option String → List Json → Prop
  | absent : Optional none []
  | null : Optional none [.null]
  | text (s : String) : Optional (some s) [.text s]

/-- The ways of writing a text that is empty where it is missing. -/
inductive Defaulted : String → List Json → Prop
  | absent : Defaulted "" []
  | text (s : String) : Defaulted s [.text s]

/-- A field of a record: its name, whether it has to be there, and the values that it takes. -/
structure Field where
  name : String
  required : Bool
  admits : Json → Prop

namespace Field

def text (name : String) : Field :=
  ⟨name, true, fun v => ∃ s, v = .text s⟩

def optional (name : String) : Field :=
  ⟨name, false, fun v => v = .null ∨ ∃ s, v = .text s⟩

def defaulted (name : String) : Field :=
  ⟨name, false, fun v => ∃ s, v = .text s⟩

/-- What a field cannot hold: nothing although it has to be there, two values, or a value of another kind. -/
inductive Faulty (field : Field) : List Json → Prop
  | missing : field.required → Faulty field []
  | twice {v w : Json} {rest : List Json} : Faulty field (v :: w :: rest)
  | kind {v : Json} {values : List Json} : v ∈ values → ¬ field.admits v → Faulty field values

theorem not_faulty_nil {field : Field} (h : field.required = false) : ¬ field.Faulty [] := by
  rintro (hrequired | _ | ⟨hv, _⟩)
  · rw [h] at hrequired
    cases hrequired
  · cases hv

theorem not_faulty_singleton {field : Field} {v : Json} (h : field.admits v) : ¬ field.Faulty [v] := by
  rintro (_ | _ | ⟨hv, hadmits⟩)
  cases List.mem_singleton.1 hv
  exact hadmits h

end Field

def Flawed (fields : List Field) (v : Json) : Prop :=
  ∃ p ∈ fields.zip (v.held (fields.map Field.name)), p.1.Faulty p.2

variable {v : Json} {members : List Member} {name text : String} {names : List String} {found : Option Json}
  {values : List (Option Json)} {text? : Option String}

theorem mapM_eq_some_iff {α β : Type} {f : α → Option β} {xs : List α} {ys : List β} :
    xs.mapM f = some ys ↔ List.Forall₂ (fun x y => f x = some y) xs ys := by
  induction xs generalizing ys with
  | nil =>
    rw [List.mapM_nil, List.forall₂_nil_left_iff]
    exact Option.some_inj.trans eq_comm
  | cons x xs ih =>
    rw [List.mapM_cons, List.forall₂_cons_left_iff]
    simp only [bind, pure, Option.bind_eq_some_iff, Option.some.injEq, ih]
    constructor
    · rintro ⟨y, hy, rest, hrest, rfl⟩
      exact ⟨y, rest, hy, hrest, rfl⟩
    · rintro ⟨y, rest, hy, hrest, rfl⟩
      exact ⟨y, hy, rest, hrest, rfl⟩

theorem member?_eq_some_iff : member? members name = some found ↔ valuesAt members name = found.toList := by
  unfold member? valuesAt
  split
  · next h => cases found <;> simp [h]
  · next m h => cases found <;> simp [h]
  · next hnone hone =>
    constructor
    · rintro ⟨⟩
    · intro h
      generalize members.filter (·.1 = some name) = same at h hnone hone
      cases found with
      | none => exact absurd (List.map_eq_nil_iff.1 h) hnone
      | some v =>
        obtain ⟨m, hm, -⟩ := List.map_eq_singleton_iff.1 h
        exact absurd hm (hone m)

theorem mapM_member?_eq_some_iff :
    names.mapM (member? members) = some values ↔ names.map (valuesAt members) = values.map Option.toList := by
  simp only [mapM_eq_some_iff, member?_eq_some_iff]
  rw [← List.forall₂_map_right_iff (f := Option.toList) (R := fun name found => valuesAt members name = found),
    ← List.forall₂_map_left_iff (f := valuesAt members), List.forall₂_eq_eq_eq]

theorem map_toList_inj {values' : List (Option Json)} :
    values.map Option.toList = values'.map Option.toList ↔ values = values' := by
  have hinj : Function.Injective (Option.toList : Option Json → List Json) := by
    rintro (_ | v) (_ | w) ⟨⟩ <;> rfl
  exact (List.map_injective_iff.2 hinj).eq_iff

theorem fields?_eq_some_iff :
    v.fields? names = some values ↔ v.Shaped names.length ∧ v.held names = values.map Option.toList := by
  cases v with
  | object members =>
    rw [fields?, held, ← mapM_member?_eq_some_iff, Shaped, Named,
      ← List.all_eq_true (p := fun m : Member => m.1.isSome)]
    split
    · next h => exact (and_iff_right h).symm
    · next h => simp [h]
  | array items =>
    have hheld : (Json.array items).held names =
        (items.map some ++ List.replicate (names.length - items.length) none).map Option.toList := by
      simp [held]
    rw [fields?, hheld, map_toList_inj, Shaped]
    split
    · next h => simp [h]
    · next h => simp [h]
  | _ => simp [fields?, Shaped]

theorem not_flawed {fields : List Field}
    (h : List.Forall₂ (fun field values => ¬ field.Faulty values) fields (v.held (fields.map Field.name))) :
    ¬ v.Flawed fields := by
  rintro ⟨p, hp, hfaulty⟩
  exact (List.forall₂_iff_zip.1 h).2 hp hfaulty

theorem string?_eq_some_iff : v.string? = some text ↔ v = .text text := by
  cases v <;> simp [string?, Json.text]

theorem requiredString_eq_some_iff : requiredString found = some text ↔ found.toList = [.text text] := by
  cases found <;> simp [requiredString, string?_eq_some_iff]

theorem requiredString_text (s : String) : requiredString (some (.text s)) = some s :=
  rfl

theorem optional_iff {held : List Json} :
    Optional text? held ↔ ∃ found : Option Json, held = found.toList ∧ optionalString found = some text? := by
  constructor
  · rintro (_ | _ | _)
    · exact ⟨none, rfl, rfl⟩
    · exact ⟨some .null, rfl, rfl⟩
    · exact ⟨some (.text _), rfl, rfl⟩
  · rintro ⟨found, rfl, h⟩
    unfold optionalString at h
    split at h
    · cases h
      exact .absent
    · cases h
      exact .null
    · obtain ⟨s, hs, rfl⟩ := Option.map_eq_some_iff.1 h
      rw [string?_eq_some_iff.1 hs]
      exact .text s

theorem defaulted_iff {held : List Json} :
    Defaulted text held ↔ ∃ found : Option Json, held = found.toList ∧ defaultString found = some text := by
  constructor
  · rintro (_ | _)
    · exact ⟨none, rfl, rfl⟩
    · exact ⟨some (.text _), rfl, rfl⟩
  · rintro ⟨found, rfl, h⟩
    unfold defaultString at h
    split at h
    · cases h
      exact .absent
    · rw [string?_eq_some_iff.1 h]
      exact .text text

theorem Optional.not_faulty {held : List Json} (h : Optional text? held) : ¬ (Field.optional name).Faulty held := by
  cases h with
  | absent => exact Field.not_faulty_nil rfl
  | null => exact Field.not_faulty_singleton (.inl rfl)
  | text s => exact Field.not_faulty_singleton (.inr ⟨s, rfl⟩)

theorem Defaulted.not_faulty {held : List Json} (h : Defaulted text held) :
    ¬ (Field.defaulted name).Faulty held := by
  cases h with
  | absent => exact Field.not_faulty_nil rfl
  | text s => exact Field.not_faulty_singleton ⟨_, rfl⟩

theorem not_faulty_text : ¬ (Field.text name).Faulty [.text text] :=
  Field.not_faulty_singleton ⟨text, rfl⟩

end TokenBridge.Json
