import TokenBridge.Evm.Artifact
import TokenBridge.Proofs.Hex
import TokenBridge.Proofs.Json.Bounded
import TokenBridge.Proofs.Json.Reader
import TokenBridge.Proofs.Json.Record

namespace TokenBridge.Artifact

/-- The two ways of writing the text of the bytecode. -/
inductive Holds (text : String) : Json → Prop
  | plain : Holds text (.text text)
  | nested {inner : List Json.Member} :
      (∀ m ∈ inner, m.Kept) → Json.valuesAt inner "object" = [.text text] → Holds text (.object inner)

/-- A text at `bytecode`, or at `object` inside an object there. -/
def Found (members : List Json.Member) (text : String) : Prop :=
  .text text ∈ Json.valuesAt members "bytecode" ∨
    ∃ inner, .object inner ∈ Json.valuesAt members "bytecode" ∧ .text text ∈ Json.valuesAt inner "object"

variable {artifact : Artifact} {v code : Json} {members : List Json.Member} {text json : String} {bytes : Bytes}

theorem bytecodeText?_eq_some_iff : bytecodeText? code = some text ↔ Holds text code := by
  constructor
  · intro h
    unfold bytecodeText? at h
    split at h
    · cases h
    · next hbounded =>
      simp only [Bool.not_eq_true, Bool.not_eq_false'] at hbounded
      split at h
      · cases h
        exact .plain
      · next inner =>
        obtain ⟨found, hfound, htext⟩ := Option.bind_eq_some_iff.1 h
        refine .nested (Json.isBounded_object_iff.1 hbounded) ?_
        rw [Json.member?_eq_some_iff.1 hfound, Json.requiredString_eq_some_iff.1 htext]
      · cases h
  · rintro (_ | ⟨hkept, hobject⟩)
    · rfl
    · next inner =>
      have hfound : Json.member? inner "object" = some (some (.text text)) := Json.member?_eq_some_iff.2 hobject
      rw [bytecodeText?, Json.isBounded_object_iff.2 hkept, hfound]
      rfl

theorem ofJson_object_eq_some_iff :
    ofJson (.object members) = some artifact ↔
      Json.Named members ∧ Json.Optional artifact.name (Json.valuesAt members "contractName") ∧
        ∃ code, Json.valuesAt members "bytecode" = [code] ∧ Holds artifact.bytecodeText code := by
  have hfields (name code : Option Json) :
      Json.fields? ["contractName", "bytecode"] (.object members) = some [name, code] ↔
        Json.Named members ∧ Json.valuesAt members "contractName" = name.toList ∧
          Json.valuesAt members "bytecode" = code.toList := by
    rw [Json.fields?_eq_some_iff]
    simp [Json.Shaped, Json.held]
  constructor
  · intro h
    obtain ⟨values, hvalues, h⟩ := Option.bind_eq_some_iff.1 h
    split at h
    · next name code =>
      obtain ⟨hnamed, hname, hcode⟩ := (hfields name (some code)).1 hvalues
      simp only [bind, pure, Option.bind_eq_some_iff, Option.some.injEq, bytecodeText?_eq_some_iff] at h
      obtain ⟨name, hnameRead, text, hholds, rfl⟩ := h
      exact ⟨hnamed, Json.optional_iff.2 ⟨_, hname, hnameRead⟩, code, hcode, hholds⟩
    · cases h
  · rintro ⟨hnamed, hname, code, hcode, hholds⟩
    obtain ⟨name, hname, hnameRead⟩ := Json.optional_iff.1 hname
    rw [ofJson, (hfields name (some code)).2 ⟨hnamed, hname, hcode⟩]
    simp only [bind, pure, Option.bind_some, hnameRead, bytecodeText?_eq_some_iff.2 hholds]

theorem bytecode_eq_ok_iff_ofJson (hdoc : v.Writes json.toList) :
    bytecode json = .ok bytes ↔
      bytes ≠ [] ∧ ∃ artifact, ofJson v = some artifact ∧ Hex.read artifact.bytecodeText = .ok bytes := by
  have hread : Json.read json.toList >>= ofJson = ofJson v := by
    rw [Json.read_eq_some_iff.2 hdoc]
    rfl
  rw [bytecode, hread]
  split
  · next hnone => simp [hnone]
  · next artifact hsome =>
    have hartifact : (∃ a, some artifact = some a ∧ Hex.read a.bytecodeText = .ok bytes) ↔
        Hex.read artifact.bytecodeText = .ok bytes := by simp
    rw [hsome, hartifact]
    split
    · next e he => simp [he]
    · next he =>
      rw [he]
      simp [eq_comm]
    · next found hne he =>
      rw [he, Except.ok.injEq, Except.ok.injEq]
      exact ⟨fun h => ⟨h ▸ hne, h⟩, And.right⟩

theorem bytecode_eq_ok_iff (hdoc : (Json.object members).Writes json.toList) :
    bytecode json = .ok bytes ↔
      bytes ≠ [] ∧ Json.Named members ∧ (∃ name, Json.Optional name (Json.valuesAt members "contractName")) ∧
        ∃ code text, Json.valuesAt members "bytecode" = [code] ∧ Holds text code ∧
          Hex.Spelling bytes text.toList := by
  simp only [bytecode_eq_ok_iff_ofJson hdoc, ofJson_object_eq_some_iff, Hex.read_eq_ok_iff]
  constructor
  · rintro ⟨hne, ⟨name, text⟩, ⟨hnamed, hname, code, hcode, hholds⟩, hspelling⟩
    exact ⟨hne, hnamed, ⟨name, hname⟩, code, text, hcode, hholds, hspelling⟩
  · rintro ⟨hne, hnamed, ⟨name, hname⟩, code, text, hcode, hholds, hspelling⟩
    exact ⟨hne, ⟨name, text⟩, ⟨hnamed, hname, code, hcode, hholds⟩, hspelling⟩

theorem found_iff {text' : String} (hcode : Json.valuesAt members "bytecode" = [code]) (hholds : Holds text code) :
    Found members text' ↔ text' = text := by
  unfold Found
  rw [hcode]
  cases hholds with
  | plain => simp [Json.text]
  | nested _ hobject => simp [Json.text, hobject]

theorem exists_contractCall_of_bytecode {e : NetworkError} (h : bytecode json = .error e) :
    ∃ message, e = .contractCall message := by
  unfold bytecode at h
  split at h
  · cases h
    exact ⟨_, rfl⟩
  · split at h
    · cases h
      exact ⟨_, rfl⟩
    · cases h
      exact ⟨_, rfl⟩
    · cases h

theorem bytecode_of_object (hdoc : (Json.object members).Writes json.toList) :
    (∀ (bytes : Bytes) (text : String) (name : Option String) (code : Json), bytes ≠ [] →
        Hex.Spelling bytes text.toList → Json.Named members →
        Json.Optional name (Json.valuesAt members "contractName") →
        Json.valuesAt members "bytecode" = [code] → Holds text code → bytecode json = .ok bytes) ∧
      (∀ bytes : Bytes, bytecode json = .ok bytes →
        bytes ≠ [] ∧ ∃ text, (∀ found, Found members found ↔ found = text) ∧ Hex.Spelling bytes text.toList) ∧
      ∀ text : String, Found members text →
        (Hex.unmarkAnyCase text.toList = [] ∨ (Hex.unmarkAnyCase text.toList).length % 2 = 1 ∨
          ∃ c ∈ Hex.unmarkAnyCase text.toList, ¬ Hex.isDigit c) →
        ∃ message, bytecode json = .error (.contractCall message) := by
  have hspells : ∀ bytes : Bytes, bytecode json = .ok bytes →
      bytes ≠ [] ∧ ∃ text, (∀ found, Found members found ↔ found = text) ∧ Hex.Spelling bytes text.toList := by
    intro bytes hok
    obtain ⟨hne, -, -, code, text, hcode, hholds, hspelling⟩ := (bytecode_eq_ok_iff hdoc).1 hok
    exact ⟨hne, text, fun found => found_iff hcode hholds, hspelling⟩
  refine ⟨?_, hspells, ?_⟩
  · intro bytes text name code hne hspelling hnamed hname hcode hholds
    exact (bytecode_eq_ok_iff hdoc).2 ⟨hne, hnamed, ⟨name, hname⟩, code, text, hcode, hholds, hspelling⟩
  · intro text hfound hbad
    cases hresult : bytecode json with
    | error e =>
      obtain ⟨message, rfl⟩ := exists_contractCall_of_bytecode hresult
      exact ⟨message, rfl⟩
    | ok bytes =>
      obtain ⟨hne, text', htext, hspelling⟩ := hspells bytes hresult
      obtain rfl := (htext text).1 hfound
      have hlength := hspelling.length_eq
      rcases hbad with hempty | hodd | ⟨c, hc, hdigit⟩
      · rw [hempty, List.length_nil] at hlength
        exact absurd (List.length_eq_zero_iff.1 (by omega)) hne
      · omega
      · exact absurd ((Hex.spelling_iff.1 hspelling).1 c hc) hdigit

def largest : List Char :=
  "1e308".toList

def tooLarge : List Char :=
  "1.7976931348623158e308".toList

def linked : List Json.Member :=
  [(some "abi", .array [.number tooLarge]),
   (some "bytecode", .object [(some "links", .object []), (some "object", .text "0x60aB"),
    (some "size", .number largest)]),
   (some "contractName", .null)]

def linkedText : String :=
  "\x7b\"abi\":[1.7976931348623158e308],\"bytecode\":\x7b\"links\":\x7b\x7d,\"object\":\"0x60aB\"," ++
    "\"size\":1e308\x7d,\"contractName\":null\x7d"

def unlinkedText : String :=
  "\x7b\"bytecode\":\"0x60__$ab$__\"\x7d"

theorem linked_writes : (Json.object linked).Writes linkedText.toList :=
  Json.lexed_of_tokens (by decide +kernel)

theorem bytecode_of_object_linked :
    bytecode linkedText = .ok [0x60, 0xab] ∧
      ∃ message, bytecode unlinkedText = .error (.contractCall message) := by
  constructor
  · have hspelling : Hex.Spelling [0x60, 0xab] "0x60aB".toList := Hex.read_eq_ok_iff.1 (by decide +kernel)
    have hscaled : Json.scaled largest = (1, Json.maxExponent) := by decide
    have hsize : Json.numberFits largest := Json.numberFits_of_le hscaled (Nat.le_of_eq (Nat.one_mul _))
    have hkept : ∀ m ∈ [(some "links", Json.object []), (some "object", Json.text "0x60aB"),
        (some "size", Json.number largest)], Json.Member.Kept m := by
      rintro m (_ | ⟨_, _ | ⟨_, _ | ⟨_, ⟨⟩⟩⟩⟩)
      · exact ⟨rfl, rfl, rfl, by decide⟩
      · exact ⟨rfl, rfl, rfl, by decide⟩
      · exact ⟨rfl, rfl, hsize, by decide⟩
    exact (bytecode_of_object linked_writes).1 _ _ none _ (by simp) hspelling (by simp [linked, Json.Named]) .null rfl
      (.nested hkept rfl)
  · have hdoc : (Json.object [(some "bytecode", .text "0x60__$ab$__")]).Writes unlinkedText.toList :=
      Json.lexed_of_tokens (by decide +kernel)
    refine (bytecode_of_object hdoc).2.2 "0x60__$ab$__" (.inl (List.mem_singleton_self _)) (.inr (.inr ⟨'_', ?_⟩))
    decide +kernel

theorem bytecode_exceptions :
    ((Json.object [(some "bytecode", .text "0X60")]).Writes "\x7b\"bytecode\":\"0X60\"\x7d".toList ∧
        Hex.unmark "0X60".toList = ['0', 'X', '6', '0'] ∧ Hex.isDigit 'X' = false ∧
        bytecode "\x7b\"bytecode\":\"0X60\"\x7d" = .ok [0x60]) ∧
      ((Json.object [(some "bytecode", .text "0x60"), (none, .number ['1'])]).Writes
          "\x7b\"bytecode\":\"0x60\",\"\\ud800\":1\x7d".toList ∧
        Hex.Spelling [0x60] "0x60".toList ∧
        bytecode "\x7b\"bytecode\":\"0x60\",\"\\ud800\":1\x7d" ≠ .ok [0x60]) ∧
      (Json.object [(some "bytecode", .object [(some "object", .text "0x60"), (some "x", .number tooLarge)])]).Writes
          "\x7b\"bytecode\":\x7b\"object\":\"0x60\",\"x\":1.7976931348623158e308\x7d\x7d".toList ∧
        bytecode "\x7b\"bytecode\":\x7b\"object\":\"0x60\",\"x\":1.7976931348623158e308\x7d\x7d" ≠ .ok [0x60] ∧
        bytecode "\x7b\"bytecode\":\"0x60\",\"x\":1.7976931348623158e308\x7d" = .ok [0x60] := by
  refine ⟨⟨Json.lexed_of_tokens ?_, ?_, ?_, ?_⟩, ⟨Json.lexed_of_tokens ?_, Hex.read_eq_ok_iff.1 ?_, ?_⟩,
    Json.lexed_of_tokens ?_, ?_, ?_⟩ <;> decide +kernel

end TokenBridge.Artifact
