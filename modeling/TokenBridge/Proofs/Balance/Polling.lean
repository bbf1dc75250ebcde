import TokenBridge.Proofs.Balance.Order

namespace TokenBridge.Balance

open Wallet (Subscription)

namespace Ticker

variable {t : Ticker} {now : Nat}

theorem due_add_le_take (h : t.isDue now) : t.due + t.interval ≤ (t.take now).due := by
  have hle : t.due ≤ now := by simpa [isDue] using h
  rw [take]
  split
  · exact Nat.le_refl _
  · exact Nat.add_le_add_right hle _

theorem now_add_le_take (t : Ticker) (now : Nat) :
    now + t.interval ≤ (t.take now).due + tolerance := by
  rw [take]
  split
  · next h =>
    calc now + t.interval
      _ ≤ t.due + tolerance + t.interval := Nat.add_le_add_right h _
      _ = t.due + t.interval + tolerance := Nat.add_right_comm ..
  · exact Nat.le_add_right ..

end Ticker

def Move.isTick : Move → Bool
  | .tick => true
  | .wallet _ | .elapse _ | .stop | .shutDown | .receive | .answer _ => false

namespace Run

namespace Turn

def time (t : Turn) : Nat :=
  t.before.scene.now

def isTick (t : Turn) : Bool :=
  t.move.isTick

/-- A tick that begins a fetch. -/
def isPoll (t : Turn) : Bool :=
  t.isTick && t.acts.any fun act => act.account?.isSome

def isWithin (opening length : Nat) (t : Turn) : Bool :=
  opening ≤ t.time && t.time ≤ opening + length

theorem isWithin_iff {opening length : Nat} {t : Turn} :
    t.isWithin opening length ↔ opening ≤ t.time ∧ t.time ≤ opening + length := by
  simp [isWithin]

end Turn

def ticksWithin (opening length : Nat) (turns : List Turn) : Nat :=
  turns.countP fun t => t.isTick && t.isWithin opening length

inductive Times (r : Run) (m : Move) (r' : Run) : Prop
  | take : m.isTick → r.tracker.ticker.isDue r.scene.now →
      r'.tracker.ticker = r.tracker.ticker.take r.scene.now → r'.scene.now = r.scene.now → Times r m r'
  | keep : m.isTick = false → r'.tracker.ticker = r.tracker.ticker →
      r.scene.now ≤ r'.scene.now → Times r m r'

variable {first r r' : Run} {m : Move} {turns : List Turn} {opening length : Nat}

theorem Follows.ticker_and_now {subscription : Subscription} {ticker : Ticker} {act : Act}
    {more : List Act}
    (hf : Follows (record { r with tracker := { r.tracker with subscription, ticker } } act) more r') :
    r'.tracker.ticker = ticker ∧ r'.scene.now = r.scene.now := by
  cases hf <;> exact ⟨rfl, rfl⟩

theorem times_tick (h : r.tick? = some r') : r.Times .tick r' := by
  rw [tick?] at h
  split at h
  · next hdue =>
    cases h
    obtain ⟨hticker, hnow⟩ := (follows_fetchConnected _).ticker_and_now
    exact .take rfl hdue hticker hnow
  · cases h

theorem times_receive (h : r.receive? = some r') : r.Times .receive r' := by
  rw [receive?] at h
  split at h
  · cases h
  · next e subscription hreceive =>
    cases h
    obtain ⟨hticker, hnow⟩ := (follows_handle _ e).ticker_and_now
    exact .keep rfl hticker (Nat.le_of_eq hnow.symm)

theorem times_next (h : r.next? m = some r') : r.Times m r' := by
  cases m with
  | wallet | stop =>
    cases h
    exact .keep rfl rfl (Nat.le_refl _)
  | elapse ms =>
    cases h
    exact .keep rfl rfl (Nat.le_add_right ..)
  | shutDown =>
    have hend := (ifWaiting_eq_some h).2
    split at hend
    · cases hend
      exact .keep rfl rfl (Nat.le_refl _)
    · cases hend
  | receive => exact times_receive (ifWaiting_eq_some h).2
  | tick => exact times_tick (ifWaiting_eq_some h).2
  | answer result =>
    rw [next?, answer?] at h
    split at h
    · cases h
      exact .keep rfl rfl (Nat.le_refl _)
    · cases h

theorem Times.now_le (ht : r.Times m r') : r.scene.now ≤ r'.scene.now := by
  cases ht with
  | take _ _ _ hnow => exact Nat.le_of_eq hnow.symm
  | keep _ _ hnow => exact hnow

theorem Times.interval_eq (ht : r.Times m r') :
    r'.tracker.ticker.interval = r.tracker.ticker.interval := by
  cases ht with
  | take _ _ hticker => rw [hticker, Ticker.take]
  | keep _ hticker => rw [hticker]

theorem Times.due_le (ht : r.Times m r') (hm : m.isTick) :
    r.tracker.ticker.due ≤ r.scene.now := by
  cases ht with
  | take _ hdue => simpa [Ticker.isDue] using hdue
  | keep hno => simp [hno] at hm

theorem ticksWithin_concat (turns : List Turn) (t : Turn) :
    ticksWithin opening length (turns ++ [t]) =
      ticksWithin opening length turns + if t.isTick && t.isWithin opening length then 1 else 0 := by
  rw [ticksWithin, List.countP_append, List.countP_singleton, ticksWithin]

theorem ticksWithin_eq_countP (hin : ∀ t ∈ turns, t.isWithin opening length) :
    ticksWithin opening length turns = turns.countP Turn.isTick := by
  refine List.countP_congr fun t ht => ?_
  simp [hin t ht]

namespace Course

theorem now_le (hc : Course first turns r) : first.scene.now ≤ r.scene.now := by
  induction hc with
  | start => exact Nat.le_refl _
  | turn _ hm ih => exact ih.trans (times_next hm).now_le

theorem time_bounds (hc : Course first turns r) {t : Turn} (ht : t ∈ turns) :
    first.scene.now ≤ t.time ∧ t.time ≤ r.scene.now := by
  obtain ⟨earlier, later, hsplit⟩ := List.append_of_mem ht
  exact ⟨(hc.before hsplit).1.now_le, (hc.since hsplit).now_le⟩

theorem interval_eq (hc : Course first turns r) :
    r.tracker.ticker.interval = first.tracker.ticker.interval := by
  induction hc with
  | start => rfl
  | turn _ hm ih => rw [(times_next hm).interval_eq, ih]

-- the deadline moves on by an interval with every tick in the window; the first one may have come late, but
-- then the deadline went by its time
theorem ticksWithin_le_due (hc : Course first turns r) (opening length : Nat) :
    ticksWithin opening length turns * first.tracker.ticker.interval ≤
      r.tracker.ticker.due + tolerance - opening := by
  induction hc with
  | start => exact (Nat.zero_mul _).trans_le (Nat.zero_le _)
  | @turn turns r r' m hc hm ih =>
    rw [ticksWithin_concat]
    cases times_next hm with
    | keep hno hticker =>
      have hnot : Turn.isTick ⟨r, m, r'⟩ = false := hno
      rw [hticker, hnot]
      exact ih
    | take _ hdue hticker =>
      have hmoved := Ticker.due_add_le_take hdue
      have hlate := Ticker.now_add_le_take r.tracker.ticker r.scene.now
      rw [hc.interval_eq] at hmoved hlate
      rw [hticker]
      split
      · next hin =>
        have hopen : opening ≤ r.scene.now := (Turn.isWithin_iff.1 (Bool.and_eq_true_iff.1 hin).2).1
        rw [Nat.add_one_mul]
        omega
      · rw [Nat.add_zero]
        omega

theorem ticksWithin_le (hc : Course first turns r) (opening length : Nat) :
    ticksWithin opening length turns * first.tracker.ticker.interval ≤
      length + tolerance + first.tracker.ticker.interval := by
  induction hc with
  | start => exact (Nat.zero_mul _).trans_le (Nat.zero_le _)
  | @turn turns r r' m hc hm ih =>
    rw [ticksWithin_concat]
    split
    · next hin =>
      obtain ⟨htick, hwithin⟩ := Bool.and_eq_true_iff.1 hin
      have hclose : r.scene.now ≤ opening + length := (Turn.isWithin_iff.1 hwithin).2
      have hdue := (times_next hm).due_le htick
      have hroom := hc.ticksWithin_le_due opening length
      rw [Nat.add_one_mul]
      omega
    · exact ih

theorem ticks_apart (hc : Course first turns r) {earlier mid later : List Turn} {t u : Turn}
    (hsplit : turns = earlier ++ t :: (mid ++ u :: later)) (ht : t.isTick) (hu : u.isTick) :
    t.time + (mid.countP Turn.isTick + 1) * first.tracker.ticker.interval ≤ u.time + tolerance := by
  obtain ⟨hmid, hnext⟩ := (hc.since hsplit).before (List.cons_append ..).symm
  have htime : t.time ≤ u.time := hmid.now_le
  have hwithin : ∀ x ∈ t :: mid, x.isWithin t.time (u.time - t.time) := by
    intro x hx
    obtain ⟨hopen, hclose⟩ := hmid.time_bounds hx
    exact Turn.isWithin_iff.2 ⟨hopen, (Nat.add_sub_cancel' htime).symm ▸ hclose⟩
  have hroom := hmid.ticksWithin_le_due t.time (u.time - t.time)
  rw [ticksWithin_eq_countP hwithin, List.countP_cons_of_pos ht, (hc.before hsplit).1.interval_eq] at hroom
  have hdue : u.before.tracker.ticker.due ≤ u.time := (times_next hnext).due_le hu
  omega

end Course

theorem le_div_of_mul_le {count interval length : Nat} (hinterval : tolerance < interval)
    (h : count * interval ≤ length + tolerance + interval) :
    count ≤ length / (interval - tolerance) + 1 := by
  rcases count with - | - | count
  · exact Nat.zero_le _
  · exact Nat.le_add_left ..
  · have hroom : 0 < interval - tolerance := Nat.sub_pos_of_lt hinterval
    have hspent : (count + 1) * interval ≤ length + tolerance := by
      rw [Nat.add_one_mul] at h
      exact Nat.le_of_add_le_add_right h
    have hsaved : tolerance ≤ (count + 1) * tolerance := Nat.le_mul_of_pos_left _ count.succ_pos
    refine Nat.add_le_add_right ((Nat.le_div_iff_mul_le hroom).2 ?_) 1
    rw [Nat.mul_sub, Nat.sub_le_iff_le_add]
    exact hspent.trans (Nat.add_le_add_left hsaved _)

theorem ticks_never_bunch {scene : Scene} {interval : Nat} (hc : Course (start scene interval) turns r) :
    (∀ earlier t mid u later, turns = earlier ++ t :: (mid ++ u :: later) → t.isTick → u.isTick →
      t.time + (mid.countP Turn.isTick + 1) * interval ≤ u.time + tolerance) ∧
    ∀ opening length, tolerance < interval →
      turns.countP (fun t => t.isPoll && t.isWithin opening length) ≤
        length / (interval - tolerance) + 1 := by
  refine ⟨fun earlier t mid u later hsplit ht hu => hc.ticks_apart hsplit ht hu, ?_⟩
  intro opening length hinterval
  have hpolls : turns.countP (fun t => t.isPoll && t.isWithin opening length) ≤
      ticksWithin opening length turns := by
    refine List.countP_mono_left fun t _ hpoll => ?_
    simp only [Turn.isPoll, Bool.and_eq_true] at hpoll ⊢
    exact ⟨hpoll.1.1, hpoll.2⟩
  exact hpolls.trans (le_div_of_mul_le hinterval (hc.ticksWithin_le opening length))

def slow : Option (List Turn × Run) :=
  (start ⟨.new [], .unknown, 0⟩ 1000).course?
    [.wallet (.connect ⟨away, 56⟩), .tick, .elapse 4500, .answer (.error (.contractCall "late")), .tick,
      .answer (.ok ⟨7, seven_lt⟩), .elapse 1002, .receive, .elapse 3, .answer (.ok ⟨7, seven_lt⟩),
      .tick, .answer (.ok ⟨7, seven_lt⟩), .elapse 995, .tick]

theorem ticks_never_bunch_slow :
    ∃ turns r, slow = some (turns, r) ∧
      (turns.filter Turn.isTick).map Turn.time = [0, 4500, 5505, 6500] ∧
      turns.countP (fun t => t.isPoll && t.isWithin 5505 995) = 995 / (1000 - tolerance) + 1 ∧
      (∀ earlier t mid u later, turns = earlier ++ t :: (mid ++ u :: later) → t.isTick → u.isTick →
        t.time + (mid.countP Turn.isTick + 1) * 1000 ≤ u.time + tolerance) ∧
      tolerance < 1000 ∧
      ∀ opening length, turns.countP (fun t => t.isPoll && t.isWithin opening length) ≤
        length / (1000 - tolerance) + 1 := by
  have hsome : slow.isSome := by decide +kernel
  obtain ⟨⟨turns, r⟩, hcourse⟩ := Option.isSome_iff_exists.1 hsome
  have hend : slow.all fun x => (x.1.filter Turn.isTick).map Turn.time = [0, 4500, 5505, 6500] ∧
      x.1.countP (fun t => t.isPoll && t.isWithin 5505 995) = 995 / (1000 - tolerance) + 1 := by
    decide +kernel
  simp only [hcourse, Option.all_some, decide_eq_true_eq] at hend
  obtain ⟨htimes, hcount⟩ := hend
  obtain ⟨hapart, hwindow⟩ := ticks_never_bunch (Course.start.play hcourse)
  have hinterval : tolerance < 1000 := by decide
  exact ⟨turns, r, hcourse, htimes, hcount, hapart, hinterval,
    fun opening length => hwindow opening length hinterval⟩

end Run
end TokenBridge.Balance
