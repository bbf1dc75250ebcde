import Mathlib.Data.List.DropRight
import TokenBridge.Text.Blank

namespace TokenBridge.Text

theorem rdropWhile_cons {α : Type} {p : α → Bool} {x : α} (h : ¬ p x) (s : List α) :
    (x :: s).rdropWhile p = x :: s.rdropWhile p := by
  rw [List.rdropWhile, List.reverse_cons, List.dropWhile_append]
  split
  · next hnil =>
    rw [List.rdropWhile, List.isEmpty_iff.1 hnil, List.dropWhile_cons_of_neg h]
    rfl
  · rw [List.reverse_append, ← List.rdropWhile]
    rfl

theorem rdropWhile_dropWhile_padded {α : Type} {p : α → Bool} {front middle back : List α}
    (hfront : ∀ x ∈ front, p x) (hback : ∀ x ∈ back, p x) :
    ((front ++ middle ++ back).dropWhile p).rdropWhile p = (middle.dropWhile p).rdropWhile p := by
  rw [List.append_assoc, List.dropWhile_append_of_pos hfront, List.dropWhile_append]
  split
  · next hnil => rw [List.isEmpty_iff.1 hnil, List.dropWhile_eq_nil_iff.2 hback]
  · rw [List.rdropWhile, List.reverse_append,
      List.dropWhile_append_of_pos fun x hx => hback x (List.mem_reverse.1 hx), ← List.rdropWhile]

theorem trimEnd_eq_rdropWhile (s : List Char) : trimEnd s = s.rdropWhile isBlank := rfl

theorem trimStart_trimEnd_trimStart (s : List Char) :
    trimStart (trimEnd (trimStart s)) = trimEnd (trimStart s) := by
  cases ht : trimStart s with
  | nil => rfl
  | cons c rest =>
    have hhead := List.head?_dropWhile_not isBlank s
    rw [← trimStart, ht] at hhead
    rw [trimEnd_eq_rdropWhile, rdropWhile_cons (by simpa using hhead), trimStart,
      List.dropWhile_cons_of_neg (by simpa using hhead)]

theorem trimChars_trimChars (s : List Char) : trimChars (trimChars s) = trimChars s := by
  rw [trimChars, trimChars, trimStart_trimEnd_trimStart, trimEnd_eq_rdropWhile,
    trimEnd_eq_rdropWhile, List.rdropWhile_idempotent]

theorem trim_trim (s : String) : trim (trim s) = trim s := by
  rw [trim, trim_toList, trimChars_trimChars, ← trim]

theorem trimChars_eq_nil_iff {s : List Char} : trimChars s = [] ↔ ∀ c ∈ s, isBlank c := by
  rw [trimChars, trimEnd_eq_rdropWhile, List.rdropWhile_eq_nil_iff]
  constructor
  · intro h c hc
    rw [← List.takeWhile_append_dropWhile (p := isBlank) (l := s), List.mem_append] at hc
    rcases hc with hc | hc
    · exact List.mem_takeWhile_imp hc
    · exact h c hc
  · intro h c hc
    exact h c ((List.dropWhile_sublist _).subset hc)

theorem trim_eq_empty_iff {s : String} : trim s = "" ↔ ∀ c ∈ s.toList, isBlank c := by
  rw [← trimChars_eq_nil_iff, ← trim_toList, String.toList_eq_nil_iff]

theorem trim_of_unblank {s : String} (h : ∀ c ∈ s.toList, isBlank c = false) : trim s = s := by
  have hunblank : ∀ t : List Char, (∀ c ∈ t, isBlank c = false) → t.dropWhile isBlank = t := by
    intro t ht
    cases t with
    | nil => rfl
    | cons c t => exact List.dropWhile_cons_of_neg (by simp [ht c])
  have hstart : trimStart s.toList = s.toList := hunblank _ h
  have hend : (s.toList.reverse.dropWhile isBlank) = s.toList.reverse :=
    hunblank _ fun c hc => h c (List.mem_reverse.1 hc)
  rw [trim, trimChars, hstart, trimEnd, hend, List.reverse_reverse, String.ofList_toList]

/-- A text, and the same text with white space around it. -/
def Padded (s t : String) : Prop :=
  ∃ front back, t.toList = front ++ s.toList ++ back ∧ ∀ c ∈ front ++ back, isBlank c

variable {s t : String}

theorem Padded.refl (s : String) : Padded s s :=
  ⟨[], [], by simp, by simp⟩

theorem Padded.trim_eq (h : Padded s t) : trim t = trim s := by
  obtain ⟨front, back, hlist, hblank⟩ := h
  obtain ⟨hfront, hback⟩ := List.forall_mem_append.1 hblank
  have hchars : trimChars t.toList = trimChars s.toList := by
    rw [hlist, trimChars, trimEnd_eq_rdropWhile, trimStart, rdropWhile_dropWhile_padded hfront hback]
    rfl
  rw [trim, hchars, trim]

end TokenBridge.Text
