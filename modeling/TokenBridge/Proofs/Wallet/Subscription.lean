import Mathlib.Data.List.DropRight
import TokenBridge.Wallet.Subscription

namespace TokenBridge.Wallet

namespace Channel

inductive Poll
  | event (event : Event)
  | lagged (missed : Nat)
  | empty
  deriving DecidableEq, Repr

def poll (events : List Event) (position : Nat) : Poll × Nat :=
  if position + bufferSize < events.length then
    (.lagged (events.length - bufferSize - position), events.length - bufferSize)
  else
    match events[position]? with
    | some e => (.event e, position + 1)
    | none => (.empty, position)

theorem poll_lagged {events : List Event} {position missed next : Nat}
    (h : poll events position = (.lagged missed, next)) :
    position < next ∧ next + bufferSize = events.length := by
  rw [poll] at h
  split at h
  · cases h
    omega
  · split at h <;> cases h

def read (events : List Event) (position : Nat) : Option Event × Nat :=
  match _h : poll events position with
  | (.event e, next) => (some e, next)
  | (.lagged _, next) => read events next
  | (.empty, next) => (none, next)
termination_by events.length - position
decreasing_by
  have := poll_lagged _h
  have : bufferSize = 32 := rfl
  omega

theorem read_kept {events : List Event} {position : Nat} (h : ¬ position + bufferSize < events.length) :
    read events position =
      match events[position]? with
      | some e => (some e, position + 1)
      | none => (none, position) := by
  have hpoll : poll events position = match events[position]? with
      | some e => (.event e, position + 1)
      | none => (.empty, position) := if_neg h
  rw [read]
  cases hevent : events[position]? with
  | some e =>
    rw [hevent] at hpoll
    split <;> simp_all
  | none =>
    rw [hevent] at hpoll
    split <;> simp_all

theorem read_lagged {events : List Event} {position : Nat} (h : position + bufferSize < events.length) :
    read events position = read events (events.length - bufferSize) := by
  have hpoll : poll events position =
      (.lagged (events.length - bufferSize - position), events.length - bufferSize) := if_pos h
  rw [read]
  split <;> simp_all

end Channel

namespace Subscription

variable {s s' : Subscription} {events : List Event} {e : Event}

theorem unread_eq_nil_iff : s.unread events = [] ↔ events.length ≤ s.position := by
  rw [unread, List.drop_eq_nil_iff, next, bufferSize]
  omega

theorem le_next (s : Subscription) (events : List Event) : s.position ≤ s.next events :=
  Nat.le_max_left ..

theorem next_of_kept (h : ¬ s.position + bufferSize < events.length) : s.next events = s.position := by
  rw [next]
  omega

theorem next_of_lagged (h : s.position + bufferSize < events.length) :
    s.next events = events.length - bufferSize := by
  rw [next]
  omega

theorem head?_unread (s : Subscription) (events : List Event) :
    (s.unread events).head? = events[s.next events]? := by
  rw [unread, List.head?_drop]

theorem tail_unread (s : Subscription) (events : List Event) :
    (s.unread events).tail = (⟨s.next events + 1⟩ : Subscription).unread events := by
  have hnext : (⟨s.next events + 1⟩ : Subscription).next events = s.next events + 1 := by
    simp only [next]
    omega
  rw [unread, unread, hnext, List.tail_drop]

theorem receive_cases (s : Subscription) (events : List Event) :
    (s.unread events = [] ∧ s.receive events = (none, s)) ∨
      ∃ e, s.unread events = e :: (⟨s.next events + 1⟩ : Subscription).unread events ∧
        events[s.next events]? = some e ∧ s.receive events = (some e, ⟨s.next events + 1⟩) := by
  cases hu : s.unread events with
  | nil =>
    refine .inl ⟨rfl, ?_⟩
    rw [receive, hu]
  | cons e rest =>
    refine .inr ⟨e, ?_, ?_, ?_⟩
    · rw [← tail_unread, hu, List.tail_cons]
    · rw [← head?_unread, hu, List.head?_cons]
    · rw [receive, hu]

theorem receive_fst (s : Subscription) (events : List Event) :
    (s.receive events).1 = (s.unread events).head? := by
  rw [receive]
  split <;> simp_all

theorem receive_eq_some (h : s.receive events = (some e, s')) :
    s.position < events.length ∧ s.position < s'.position ∧ s'.position ≤ events.length ∧
      events[s'.position - 1]? = some e := by
  rcases receive_cases s events with ⟨-, hnone⟩ | ⟨e', -, hget, hsome⟩
  · rw [hnone] at h
    cases h
  · rw [hsome] at h
    cases h
    have hlt : s.next events < events.length := (List.getElem?_eq_some_iff.1 hget).1
    have hle := le_next s events
    exact ⟨by omega, by simp only; omega, by simp only; omega, hget⟩

theorem read_position (s : Subscription) (events : List Event) :
    Channel.read events s.position =
      match events[s.next events]? with
      | some e => (some e, s.next events + 1)
      | none => (none, s.position) := by
  by_cases h : s.position + bufferSize < events.length
  · have hlt : events.length - bufferSize < events.length := by
      rw [bufferSize] at h ⊢
      omega
    rw [Channel.read_lagged h, Channel.read_kept (by omega), next_of_lagged h,
      List.getElem?_eq_getElem hlt]
  · rw [Channel.read_kept h, next_of_kept h]

theorem receive_eq_read (s : Subscription) (events : List Event) :
    s.receive events =
      ((Channel.read events s.position).1, ⟨(Channel.read events s.position).2⟩) := by
  rw [read_position]
  rcases receive_cases s events with ⟨hnil, hreceive⟩ | ⟨e, -, hget, hreceive⟩
  · rw [hreceive, ← head?_unread, hnil, List.head?_nil]
  · rw [hreceive, hget]

theorem drain_eq (s : Subscription) (events : List Event) :
    s.drain events =
      match s.receive events with
      | (none, s) => ([], s)
      | (some e, s) => (e :: (s.drain events).1, (s.drain events).2) := by
  rcases receive_cases s events with ⟨hnil, hreceive⟩ | ⟨e, hunread, hget, hreceive⟩
  · have hend : max s.position events.length = s.position :=
      Nat.max_eq_left (unread_eq_nil_iff.1 hnil)
    rw [hreceive, drain, hnil, hend]
  · have hlt : s.next events < events.length := (List.getElem?_eq_some_iff.1 hget).1
    have hle := le_next s events
    have hend : max (s.next events + 1) events.length = max s.position events.length := by omega
    simp only [hreceive, drain, hunread, hend]

theorem unread_eq_rtake (s : Subscription) (events : List Event) :
    s.unread events = (events.drop s.position).rtake bufferSize := by
  rw [unread, List.rtake, List.drop_drop, List.length_drop, next]
  congr 1
  omega

/-- A subscription that began behind `base` events, the events it told, and their places. What it passed over
lies further back than the channel keeps. -/
structure Delivered (base : Nat) (events : List Event) (s : Subscription) (places : List Nat)
    (told : List Event) : Prop where
  told_eq : told.map some = places.map (events[·]?)
  base_le : base ≤ s.position
  position_le : s.position ≤ events.length
  increasing : places.Pairwise (· < ·)
  position_eq : s.position = places.getLast?.elim base (· + 1)
  within : ∀ i ∈ places, base ≤ i ∧ i < s.position
  skipped : ∀ i, base ≤ i → i < s.position → i ∉ places → i + bufferSize < events.length

variable {base : Nat} {places : List Nat} {told : List Event}

theorem delivered_begin (events : List Event) :
    Delivered events.length events (.begin events) [] [] where
  told_eq := rfl
  base_le := Nat.le_refl _
  position_le := Nat.le_refl _
  increasing := .nil
  position_eq := rfl
  within := by simp
  skipped i hbase hlt := absurd hlt (Nat.not_lt.2 hbase)

theorem Delivered.emit (hd : Delivered base events s places told) (more : List Event) :
    Delivered base (events ++ more) s places told where
  told_eq := by
    rw [hd.told_eq]
    refine List.map_congr_left fun i hi => (List.getElem?_append_left ?_).symm
    exact (hd.within i hi).2.trans_le hd.position_le
  base_le := hd.base_le
  position_le := by
    rw [List.length_append]
    exact Nat.le_add_right_of_le hd.position_le
  increasing := hd.increasing
  position_eq := hd.position_eq
  within := hd.within
  skipped i hbase hlt hi := by
    rw [List.length_append]
    exact Nat.lt_add_right _ (hd.skipped i hbase hlt hi)

theorem Delivered.receive (hd : Delivered base events s places told)
    (h : s.receive events = (some e, s')) :
    Delivered base events s' (places ++ [s.next events]) (told ++ [e]) := by
  have hle := le_next s events
  have hbase := hd.base_le
  rcases receive_cases s events with ⟨-, hnone⟩ | ⟨e', -, hget, hsome⟩
  · rw [hnone] at h
    cases h
  · rw [hsome] at h
    cases h
    refine ⟨?_, ?_, ?_, ?_, ?_, ?_, ?_⟩
    · rw [List.map_append, List.map_append, hd.told_eq, List.map_singleton, List.map_singleton, hget]
    · simp only
      omega
    · exact (List.getElem?_eq_some_iff.1 hget).1
    · refine List.pairwise_append.2 ⟨hd.increasing, List.pairwise_singleton .., fun i hi j hj => ?_⟩
      rw [List.mem_singleton.1 hj]
      exact (hd.within i hi).2.trans_le hle
    · rw [List.getLast?_concat]
      rfl
    · intro i hi
      simp only
      rcases List.mem_append.1 hi with hi | hi
      · have := hd.within i hi
        omega
      · rw [List.mem_singleton.1 hi]
        omega
    · intro i hi hlt hplaces
      rw [List.mem_append, List.mem_singleton, not_or] at hplaces
      by_cases hpassed : i < s.position
      · exact hd.skipped i hi hpassed hplaces.1
      · have hlagged : s.position + bufferSize < events.length := by
          by_contra hkept
          rw [next_of_kept hkept] at hlt hplaces
          simp only at hlt
          omega
        rw [next_of_lagged hlagged] at hlt hplaces
        simp only at hlt
        omega

def Gapless (base : Nat) (events : List Event) (s : Subscription) (told : List Event) : Prop :=
  told ++ events.drop s.position = events.drop base

theorem Gapless.emit (hg : Gapless base events s told) (hd : Delivered base events s places told)
    (more : List Event) : Gapless base (events ++ more) s told := by
  rw [Gapless, List.drop_append_of_le_length hd.position_le,
    List.drop_append_of_le_length (hd.base_le.trans hd.position_le), ← List.append_assoc, hg]

theorem Gapless.length_told (hg : Gapless base events s told) (hd : Delivered base events s places told) :
    base + told.length = s.position := by
  have hlength := congrArg List.length hg
  have := hd.base_le
  have := hd.position_le
  rw [List.length_append, List.length_drop, List.length_drop] at hlength
  omega

theorem Gapless.receive (hg : Gapless base events s told)
    (hkept : ¬ s.position + bufferSize < events.length) (h : s.receive events = (some e, s')) :
    Gapless base events s' (told ++ [e]) := by
  rcases receive_cases s events with ⟨-, hnone⟩ | ⟨e', -, hget, hsome⟩
  · rw [hnone] at h
    cases h
  · rw [hsome] at h
    cases h
    rw [next_of_kept hkept] at hget ⊢
    obtain ⟨hlt, rfl⟩ := List.getElem?_eq_some_iff.1 hget
    rw [Gapless, List.append_assoc, List.singleton_append, List.getElem_cons_drop, hg]

theorem Gapless.unread (hg : Gapless base events s told)
    (hkept : ¬ s.position + bufferSize < events.length) : told ++ s.unread events = events.drop base := by
  rw [Subscription.unread, next_of_kept hkept, hg]

/-- Deliveries one after the other, with no event emitted in between. -/
inductive Reads (events : List Event) : Subscription → List Event → Subscription → Prop
  | nothing (s : Subscription) : Reads events s [] s
  | next {s s' s'' : Subscription} {e : Event} {rest : List Event} :
      s.receive events = (some e, s') → Reads events s' rest s'' → Reads events s (e :: rest) s''

variable {es : List Event}

theorem reads_receive (s : Subscription) (events : List Event) :
    Reads events s (s.receive events).1.toList (s.receive events).2 := by
  rcases receive_cases s events with ⟨-, hnone⟩ | ⟨e, -, -, hsome⟩
  · rw [hnone]
    exact .nothing s
  · rw [hsome]
    exact .next hsome (.nothing _)

theorem reads_drain (s : Subscription) (events : List Event) :
    Reads events s (s.drain events).1 (s.drain events).2 := by
  induction hn : events.length - s.position using Nat.strong_induction_on generalizing s with
  | h n ih =>
    rw [drain_eq]
    cases hreceive : s.receive events with
    | mk e? s' =>
      cases e? with
      | none =>
        rcases receive_cases s events with ⟨-, hnone⟩ | ⟨e, -, -, hsome⟩
        · rw [hnone] at hreceive
          cases hreceive
          exact .nothing s
        · rw [hsome] at hreceive
          cases hreceive
      | some e =>
        obtain ⟨hlt, hmore, -, -⟩ := receive_eq_some hreceive
        exact .next hreceive (ih _ (by omega) s' rfl)

theorem Reads.delivered (hr : Reads events s es s') (hd : Delivered base events s places told) :
    ∃ more, Delivered base events s' (places ++ more) (told ++ es) := by
  induction hr generalizing places told with
  | nothing s => exact ⟨[], by simpa using hd⟩
  | @next s _ _ e rest hreceive _ ih =>
    obtain ⟨more, hmore⟩ := ih (hd.receive hreceive)
    exact ⟨s.next events :: more, by simpa using hmore⟩

theorem Reads.gapless (hr : Reads events s es s') (hg : Gapless base events s told)
    (hkept : ¬ s.position + bufferSize < events.length) : Gapless base events s' (told ++ es) := by
  induction hr generalizing told with
  | nothing s => simpa using hg
  | next hreceive _ ih =>
    obtain ⟨-, hmore, -, -⟩ := receive_eq_some hreceive
    simpa using ih (hg.receive hkept hreceive) (by omega)

theorem Reads.unread (hr : Reads events s es s') : s.unread events = es ++ s'.unread events := by
  induction hr with
  | nothing s => rfl
  | next hreceive _ ih =>
    rcases receive_cases _ events with ⟨-, hnone⟩ | ⟨e, hunread, -, hsome⟩
    · rw [hnone] at hreceive
      cases hreceive
    · rw [hsome] at hreceive
      cases hreceive
      rw [hunread, ih, List.cons_append]

end Subscription
end TokenBridge.Wallet
