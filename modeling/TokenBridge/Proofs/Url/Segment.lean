import TokenBridge.Proofs.Url.Percent
import TokenBridge.Url.Printer
import TokenBridge.Url.Segment

namespace TokenBridge.Url

variable {special : Bool} {segments front : List (List Char)} {s t : List Char} {u : Url}

theorem ascii_of_isSegmentPlain (b : UInt8) (hb : isSegmentPlain special b) : b.toNat ≤ 0x7F ∧ b ≠ 37 := by
  have hall : ∀ special, ∀ i : Fin 256, isSegmentPlain special (UInt8.ofNat i) →
      i.val ≤ 0x7F ∧ UInt8.ofNat i ≠ 37 := by decide +kernel
  have h := hall special ⟨b.toNat, b.toNat_lt⟩
  rw [UInt8.ofNat_toNat] at h
  exact h hb

theorem percentEncode_eq_iff (ht : ∀ special, percentEncode (isSegmentPlain special) t = t) :
    percentEncode (isSegmentPlain special) s = t ↔ s = t := by
  have hinjective : Function.Injective (percentEncode (isSegmentPlain special)) :=
    percentEncode_injective ascii_of_isSegmentPlain
  constructor
  · intro h
    exact hinjective (h.trans (ht special).symm)
  · rintro rfl
    exact ht special

def unbroken (s : List Char) : List Char :=
  s.filter (!isTabOrNewline ·)

theorem unbroken_unbroken (s : List Char) : unbroken (unbroken s) = unbroken s := by
  simp [unbroken]

def IsDots (s : List Char) : Prop :=
  s = ['.'] ∨ s = ['.', '.']

instance : DecidablePred IsDots :=
  fun s => inferInstanceAs (Decidable (s = ['.'] ∨ s = ['.', '.']))

/-- A segment that is added as it is. -/
structure Verbatim (s : List Char) : Prop where
  unbroken : unbroken s = s
  noDots : ¬ IsDots s

theorem addSegment_dots (hs : IsDots s) : addSegment special segments s = segments :=
  if_pos hs

theorem addSegment_eq (hs : ¬ IsDots s) :
    addSegment special segments s =
      if unbroken s = ['.', '.'] then (behind segments).dropLast ++ [[]]
      else if unbroken s = ['.'] then behind segments ++ [[]]
      else behind segments ++ [percentEncode (isSegmentPlain special) (unbroken s)] := by
  have hone : percentEncode (isSegmentPlain special) (unbroken s) = ['.'] ↔ unbroken s = ['.'] :=
    percentEncode_eq_iff (by decide)
  have htwo : percentEncode (isSegmentPlain special) (unbroken s) = ['.', '.'] ↔ unbroken s = ['.', '.'] :=
    percentEncode_eq_iff (by decide)
  simp only [← hone, ← htwo]
  exact if_neg hs

theorem addSegment_unbroken (hs : ¬ IsDots s) (hkept : ¬ IsDots (unbroken s)) :
    addSegment special segments s =
      behind segments ++ [percentEncode (isSegmentPlain special) (unbroken s)] := by
  obtain ⟨hone, htwo⟩ := not_or.1 hkept
  rw [addSegment_eq hs, if_neg htwo, if_neg hone]

theorem addSegment_verbatim (hs : Verbatim s) :
    addSegment special segments s = behind segments ++ [percentEncode (isSegmentPlain special) s] := by
  have hkept : ¬ IsDots (unbroken s) := by
    rw [hs.unbroken]
    exact hs.noDots
  rw [addSegment_unbroken hs.noDots hkept, hs.unbroken]

theorem behind_append (h : t ≠ []) : behind (segments ++ [t]) = segments ++ [t] := by
  refine if_neg fun heq => h ?_
  simpa using congrArg List.getLast? heq

theorem behind_dropEmptyEnd_append (h : front ≠ [[]]) : behind (dropEmptyEnd (front ++ [[]])) = front := by
  cases front with
  | nil => rfl
  | cons first rest =>
    have hend : 1 < (first :: rest ++ [[]]).length ∧ (first :: rest ++ [[]]).getLast? = some [] :=
      ⟨by simp, List.getLast?_concat⟩
    rw [dropEmptyEnd, if_pos hend, List.dropLast_concat, behind, if_neg h]

theorem behind_dropEmptyEnd (h : segments.getLast? ≠ some []) : behind (dropEmptyEnd segments) = segments := by
  have hne : segments ≠ [[]] := by
    rintro rfl
    exact h rfl
  rw [dropEmptyEnd, if_neg fun hend => h hend.2, behind, if_neg hne]

section Text

theorem segmentsText_append (segments more : List (List Char)) :
    segmentsText (segments ++ more) = segmentsText segments ++ segmentsText more :=
  List.flatMap_append

theorem segmentsText_singleton (s : List Char) : segmentsText [s] = '/' :: s :=
  List.flatMap_singleton _ s

theorem leadText_append (hne : front ≠ []) :
    ({ u with path := .segments (front ++ [s]) } : Url).leadText =
      ({ u with path := .segments (front ++ [t]) } : Url).leadText := by
  obtain ⟨first, rest, rfl⟩ := List.exists_cons_of_ne_nil hne
  cases first <;> cases rest <;> rfl

theorem text_append_inj (hne : front ≠ []) :
    ({ u with path := .segments (front ++ [s]) } : Url).text =
      ({ u with path := .segments (front ++ [t]) } : Url).text ↔ s = t := by
  constructor
  · intro h
    have hchars := String.ofList_injective h
    simp only [chars, leadText_append (u := u) (s := s) (t := t) hne, Path.chars, segmentsText_append,
      segmentsText_singleton] at hchars
    simpa using hchars
  · rintro rfl
    rfl

end Text

end TokenBridge.Url
