import TokenBridge.Json.Reader
import TokenBridge.Proofs.Json.Token

namespace TokenBridge.Json

mutual

def toTokens : Json → List Token
  | .null => [.null]
  | .bool b => [.bool b]
  | .number literal => [.number literal]
  | .string text => [.string text]
  | .array items => .openArray :: (itemTokens items ++ [.closeArray])
  | .object members => .openObject :: (memberTokens members ++ [.closeObject])

def itemTokens : List Json → List Token
  | [] => []
  | [v] => v.toTokens
  | v :: w :: rest => v.toTokens ++ .comma :: itemTokens (w :: rest)

def memberTokens : List Member → List Token
  | [] => []
  | [(k, v)] => .string k :: .colon :: v.toTokens
  | (k, v) :: m :: rest => .string k :: .colon :: (v.toTokens ++ .comma :: memberTokens (m :: rest))

end

/-- The text is a way of writing the tree: any white space, any escapes, members in the order of the tree. -/
def Writes (v : Json) (s : List Char) : Prop :=
  Lexed v.toTokens s

def itemsSpent (finished : List Json) : List Token :=
  finished.flatMap fun v => v.toTokens ++ [.comma]

def membersSpent (finished : List Member) : List Token :=
  finished.flatMap fun m => .string m.1 :: .colon :: (m.2.toTokens ++ [.comma])

def Frame.spent : Frame → List Token
  | .items finished => .openArray :: itemsSpent finished.reverse
  | .members finished k => .openObject :: (membersSpent finished.reverse ++ [.string k, .colon])

def stackSpent : List Frame → List Token
  | [] => []
  | frame :: stack => stackSpent stack ++ frame.spent

def Reading.spent : Reading → List Token
  | .value stack => stackSpent stack
  | .itemOrEnd stack => stackSpent stack ++ [.openArray]
  | .keyOrEnd stack => stackSpent stack ++ [.openObject]
  | .key stack finished => stackSpent stack ++ .openObject :: membersSpent finished.reverse
  | .colon stack finished k => stackSpent stack ++ .openObject :: (membersSpent finished.reverse ++ [.string k])
  | .after stack v => stackSpent stack ++ v.toTokens

variable {v : Json} {k : Option String} {t : Token} {ts : List Token} {r r' : Reading} {stack : List Frame}
  {items finished : List Json} {members finishedMembers : List Member} {s : List Char}

theorem itemTokens_concat (items : List Json) (v : Json) :
    itemTokens (items ++ [v]) = itemsSpent items ++ v.toTokens := by
  induction items with
  | nil => rfl
  | cons w items ih =>
    have hne : items ++ [v] ≠ [] := List.append_ne_nil_of_right_ne_nil items (List.cons_ne_nil v [])
    obtain ⟨w', rest, hrest⟩ := List.exists_cons_of_ne_nil hne
    rw [List.cons_append, hrest, itemTokens, ← hrest, ih]
    simp [itemsSpent]

theorem memberTokens_concat (members : List Member) (k : Option String) (v : Json) :
    memberTokens (members ++ [(k, v)]) = membersSpent members ++ .string k :: .colon :: v.toTokens := by
  induction members with
  | nil => rfl
  | cons m members ih =>
    have hne : members ++ [(k, v)] ≠ [] := List.append_ne_nil_of_right_ne_nil members (List.cons_ne_nil (k, v) [])
    obtain ⟨m', rest, hrest⟩ := List.exists_cons_of_ne_nil hne
    rw [List.cons_append, hrest, memberTokens, ← hrest, ih]
    simp [membersSpent]

theorem spent_startValue (h : startValue stack t = some r) : r.spent = stackSpent stack ++ [t] := by
  cases t <;> cases h <;> rfl

theorem spent_next (h : r.next t = some r') : r'.spent = r.spent ++ [t] := by
  unfold Reading.next at h
  split at h
  case h_1 => exact spent_startValue h
  case h_3 =>
    rw [spent_startValue h]
    simp [Reading.spent, stackSpent, Frame.spent, itemsSpent]
  case h_9 finished stack v =>
    cases h
    simp [Reading.spent, stackSpent, Frame.spent, toTokens, itemTokens_concat]
  case h_11 finished k stack v =>
    cases h
    simp [Reading.spent, stackSpent, Frame.spent, toTokens, memberTokens_concat]
  case h_12 => cases h
  all_goals
    cases h
    simp [Reading.spent, stackSpent, Frame.spent, itemsSpent, membersSpent, toTokens, itemTokens, memberTokens]

theorem spent_run (h : ts.foldlM Reading.next r = some r') : r'.spent = r.spent ++ ts := by
  induction ts generalizing r with
  | nil =>
    cases h
    exact (List.append_nil _).symm
  | cons t ts ih =>
    rw [List.foldlM_cons] at h
    obtain ⟨r₁, hnext, hrest⟩ := Option.bind_eq_some_iff.1 h
    rw [ih hrest, spent_next hnext, List.append_assoc, List.singleton_append]

theorem exists_toTokens (v : Json) : ∃ t ts, v.toTokens = t :: ts ∧ t ≠ .closeArray := by
  cases v <;> exact ⟨_, _, rfl, by simp⟩

theorem next_itemOrEnd (ht : t ≠ .closeArray) :
    (Reading.itemOrEnd stack).next t = (Reading.value (.items [] :: stack)).next t := by
  cases t <;> first | rfl | exact absurd rfl ht

theorem run_itemOrEnd (v : Json) (items : List Json) (stack : List Frame) :
    (itemTokens (v :: items) ++ ts).foldlM Reading.next (.itemOrEnd stack) =
      (itemTokens (v :: items) ++ ts).foldlM Reading.next (.value (.items [] :: stack)) := by
  obtain ⟨t, rest, hv, ht⟩ := exists_toTokens v
  have hitems : ∃ rest, itemTokens (v :: items) = t :: rest := by
    cases items with
    | nil => exact ⟨rest, hv⟩
    | cons w items => exact ⟨rest ++ _, by rw [itemTokens, hv]; rfl⟩
  obtain ⟨rest, hitems⟩ := hitems
  rw [hitems, List.cons_append, List.foldlM_cons, List.foldlM_cons, next_itemOrEnd ht]

theorem run_keyOrEnd (m : Member) (members : List Member) (stack : List Frame) :
    (memberTokens (m :: members) ++ ts).foldlM Reading.next (.keyOrEnd stack) =
      (memberTokens (m :: members) ++ ts).foldlM Reading.next (.key stack []) := by
  cases members <;> rfl

theorem run_member (k : Option String) (members : List Member) (stack : List Frame) :
    (Token.string k :: Token.colon :: ts).foldlM Reading.next (.key stack members) =
      ts.foldlM Reading.next (.value (.members members k :: stack)) :=
  rfl

mutual

theorem run_toTokens (v : Json) (stack : List Frame) :
    v.toTokens.foldlM Reading.next (.value stack) = some (.after stack v) := by
  match v with
  | .null => rfl
  | .bool _ => rfl
  | .number _ => rfl
  | .string _ => rfl
  | .array [] => rfl
  | .array (w :: items) =>
    have hitems := run_itemTokens (w :: items) (by simp) [] stack
    rw [← run_itemOrEnd] at hitems
    exact hitems
  | .object [] => rfl
  | .object (m :: members) =>
    have hmembers := run_memberTokens (m :: members) (by simp) [] stack
    rw [← run_keyOrEnd] at hmembers
    exact hmembers

theorem run_itemTokens (items : List Json) (hne : items ≠ []) (finished : List Json) (stack : List Frame) :
    (itemTokens items ++ [Token.closeArray]).foldlM Reading.next (.value (.items finished :: stack)) =
      some (.after stack (.array (finished.reverse ++ items))) := by
  match items with
  | [v] =>
    rw [itemTokens, List.foldlM_append, run_toTokens v]
    simp [Reading.next]
  | v :: w :: rest =>
    have hrest := run_itemTokens (w :: rest) (by simp) (v :: finished) stack
    rw [List.reverse_cons, List.append_assoc] at hrest
    rw [itemTokens, List.append_assoc, List.foldlM_append, run_toTokens v]
    exact hrest

theorem run_memberTokens (members : List Member) (hne : members ≠ []) (finished : List Member)
    (stack : List Frame) :
    (memberTokens members ++ [Token.closeObject]).foldlM Reading.next (.key stack finished) =
      some (.after stack (.object (finished.reverse ++ members))) := by
  match members with
  | [(k, v)] =>
    rw [memberTokens, List.cons_append, List.cons_append, run_member, List.foldlM_append, run_toTokens v]
    simp [Reading.next]
  | (k, v) :: m :: rest =>
    have hrest := run_memberTokens (m :: rest) (by simp) ((k, v) :: finished) stack
    rw [List.reverse_cons, List.append_assoc] at hrest
    rw [memberTokens, List.cons_append, List.cons_append, run_member, List.append_assoc, List.foldlM_append,
      run_toTokens v]
    exact hrest

end

theorem ofTokens?_eq_some_iff : ofTokens? ts = some v ↔ ts = v.toTokens := by
  simp only [ofTokens?, bind, Option.bind_eq_some_iff]
  constructor
  · rintro ⟨r, hrun, hresult⟩
    have hspent := spent_run hrun
    unfold Reading.result? at hresult
    split at hresult
    · cases hresult
      exact hspent.symm
    · cases hresult
  · rintro rfl
    exact ⟨_, run_toTokens v [], rfl⟩

theorem Apart.append {us : List Token} (hts : Apart ts) (hus : Apart us)
    (hbetween : ∀ t ∈ us.head?, t.isNumber = false) : Apart (ts ++ us) := by
  refine List.isChain_append.2 ⟨hts, hus, fun t _ u hu hnumbers => ?_⟩
  rw [hbetween u hu] at hnumbers
  cases hnumbers.2

theorem Apart.cons (hts : Apart ts) (ht : t.isNumber = false) : Apart (t :: ts) := by
  refine List.isChain_cons.2 ⟨fun u _ hnumbers => ?_, hts⟩
  rw [ht] at hnumbers
  cases hnumbers.1

mutual

theorem apart_toTokens (v : Json) : Apart v.toTokens := by
  match v with
  | .null => exact List.isChain_singleton _
  | .bool _ => exact List.isChain_singleton _
  | .number _ => exact List.isChain_singleton _
  | .string _ => exact List.isChain_singleton _
  | .array items =>
    exact ((apart_itemTokens items).append (List.isChain_singleton _) (by simp [Token.isNumber])).cons rfl
  | .object members =>
    exact ((apart_memberTokens members).append (List.isChain_singleton _) (by simp [Token.isNumber])).cons rfl

theorem apart_itemTokens (items : List Json) : Apart (itemTokens items) := by
  match items with
  | [] => exact List.isChain_nil
  | [v] => exact apart_toTokens v
  | v :: w :: rest =>
    exact (apart_toTokens v).append ((apart_itemTokens (w :: rest)).cons rfl) (by simp [Token.isNumber])

theorem apart_memberTokens (members : List Member) : Apart (memberTokens members) := by
  match members with
  | [] => exact List.isChain_nil
  | [(k, v)] => exact ((apart_toTokens v).cons rfl).cons rfl
  | (k, v) :: m :: rest =>
    have hrest := (apart_memberTokens (m :: rest)).cons (t := .comma) rfl
    exact (((apart_toTokens v).append hrest (by simp [Token.isNumber])).cons rfl).cons rfl

end

theorem read_eq_some_iff : read s = some v ↔ v.Writes s := by
  simp only [read, bind, Option.bind_eq_some_iff, ofTokens?_eq_some_iff, exists_eq_right]
  exact tokens_eq_some_iff (apart_toTokens v)

end TokenBridge.Json
