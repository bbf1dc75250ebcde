import TokenBridge.Proofs.Balance.Run
import TokenBridge.Proofs.Wallet.Session
import TokenBridge.Proofs.Wallet.Subscription

namespace TokenBridge.Balance

open Wallet (Session Event Connection)

namespace Run

def Shows (fetched : List Fetched) (account : Address) (view : View) : Prop :=
  ∃ answer, fetched.getLast? = some (account, answer) ∧ view = .ofAnswer answer

def CaughtUp (r : Run) : Prop :=
  r.scene.session.events.length ≤ r.tracker.subscription.position

structure Followed (r : Run) : Prop where
  position_le : r.tracker.subscription.position ≤ r.scene.session.events.length
  last : ¬ r.CaughtUp → ∃ e, r.scene.session.events.getLast? = some e ∧
    e.Agrees r.scene.session.state.connection?

structure Settled (fetched : List Fetched) (r : Run) : Prop extends Followed r where
  fetching : r.CaughtUp → ∀ account, r.tracker.activity = .fetching account →
    r.scene.session.account? = some account
  unknown : r.CaughtUp → r.tracker.activity = .waiting → r.scene.session.account? = none →
    r.scene.view = .unknown
  shown : r.CaughtUp → r.tracker.activity = .waiting → ∀ account,
    r.scene.session.account? = some account →
      r.tracker.ticker.due ≤ r.scene.now ∨ Shows fetched account r.scene.view

variable {fetched : List Fetched} {r r' : Run}

theorem settled_start {scene : Scene} {interval : Nat} (hview : scene.view = .unknown) :
    Settled [] (start scene interval) where
  position_le := Nat.le_refl _
  last h := absurd (Nat.le_refl _) h
  fetching _ account h := by cases h
  unknown _ _ _ := hview
  shown _ _ _ _ := .inl (Nat.le_refl _)

theorem Settled.wallet (hs : Settled fetched r) {session : Session}
    (hl : r.scene.session.Leads session) :
    Settled fetched { r with scene := { r.scene with session := session } } := by
  cases hl with
  | silently hevents hconnection =>
    have haccount : session.account? = r.scene.session.account? := by
      rw [Session.account?, hconnection, ← Session.account?]
    refine ⟨⟨?_, ?_⟩, ?_, ?_, ?_⟩
    · simpa only [hevents] using hs.position_le
    · simpa only [CaughtUp, hevents, hconnection] using hs.last
    · simpa only [CaughtUp, hevents, haccount] using hs.fetching
    · simpa only [CaughtUp, hevents, haccount] using hs.unknown
    · simpa only [CaughtUp, hevents, haccount] using hs.shown
  | telling e hevents htells =>
    have hlt : r.tracker.subscription.position < session.events.length := by
      have := hs.position_le
      rw [hevents, List.length_append, List.length_singleton]
      omega
    have hunread : ¬ CaughtUp { r with scene := { r.scene with session := session } } :=
      Nat.not_le.2 hlt
    refine ⟨⟨Nat.le_of_lt hlt, fun _ => ⟨e, by simp [hevents], htells.agrees⟩⟩, ?_, ?_, ?_⟩ <;>
      exact fun hc => absurd hc hunread

theorem Settled.elapse (hs : Settled fetched r) (ms : Nat) :
    Settled fetched { r with scene := { r.scene with now := r.scene.now + ms } } where
  position_le := hs.position_le
  last := hs.last
  fetching := hs.fetching
  unknown := hs.unknown
  shown hc hw account ha := (hs.shown hc hw account ha).imp_left fun h => Nat.le_add_right_of_le h

theorem Settled.answer (hs : Settled fetched r) {account : Address}
    (hf : r.tracker.activity = .fetching account) (result : Except NetworkError Word) :
    Settled (fetched ++ [(account, result)]) ((r.publish (.ofAnswer result)).become .waiting) where
  position_le := hs.position_le
  last := hs.last
  fetching _ account h := by cases h
  unknown hc _ hnone := by
    have := hs.fetching hc account hf
    change r.scene.session.account? = none at hnone
    rw [hnone] at this
    cases this
  shown hc _ a ha := by
    have hsame := hs.fetching hc account hf
    change r.scene.session.account? = some a at ha
    rw [ha, Option.some.injEq] at hsame
    exact .inr ⟨result, by simp [hsame], rfl⟩

theorem Settled.shutDown (hs : Settled fetched r) : Settled fetched (r.become .finished) where
  position_le := hs.position_le
  last := hs.last
  fetching _ account h := by cases h
  unknown _ h := by cases h
  shown _ h := by cases h

theorem Followed.fetch (hf : Followed r) {account : Address}
    (ha : r.CaughtUp → r.scene.session.account? = some account) : Settled fetched (r.fetch account) where
  position_le := hf.position_le
  last := hf.last
  fetching hc a h := by
    cases h
    exact ha hc
  unknown _ h := by cases h
  shown _ h := by cases h

theorem Followed.fetchConnected (hf : Followed r) (hw : r.tracker.activity = .waiting)
    (hview : r.CaughtUp → r.scene.session.account? = none → r.scene.view = .unknown) :
    Settled fetched r.fetchConnected := by
  rw [Run.fetchConnected]
  split
  · next account ha => exact hf.fetch fun _ => ha
  · next hnone =>
    refine ⟨hf, fun _ account h => ?_, fun hc _ => hview hc, fun _ _ account ha => ?_⟩
    · rw [hw] at h
      cases h
    · rw [hnone] at ha
      cases ha

theorem Settled.tick (hs : Settled fetched r) (hw : r.tracker.activity = .waiting)
    (h : r.tick? = some r') : Settled fetched r' := by
  rw [tick?] at h
  split at h
  · cases h
    exact Followed.fetchConnected ⟨hs.position_le, hs.last⟩ hw fun hc => hs.unknown hc hw
  · cases h

theorem Settled.receive (hs : Settled fetched r) (hw : r.tracker.activity = .waiting)
    (h : r.receive? = some r') : Settled fetched r' := by
  rw [receive?] at h
  split at h
  · cases h
  · next event subscription hreceive =>
    obtain ⟨hlt, -, hle, hget⟩ := Wallet.Subscription.receive_eq_some hreceive
    have hunread : ¬ r.CaughtUp := by
      rw [CaughtUp]
      omega
    obtain ⟨e, hlast, hagrees⟩ := hs.last hunread
    have hevent : r.scene.session.events.length ≤ subscription.position →
        event.Agrees r.scene.session.state.connection? := by
      intro hc
      have hsame : subscription.position = r.scene.session.events.length := by omega
      rw [hsame, ← List.getLast?_eq_getElem?, hlast] at hget
      cases hget
      exact hagrees
    cases h
    have hf : Followed (({ r with tracker := { r.tracker with subscription := subscription } } : Run).record
        (.handle event)) := ⟨hle, fun _ => ⟨e, hlast, hagrees⟩⟩
    cases event with
    | connected c => exact hf.fetch fun hc => Session.account_of_connected (hevent hc)
    | accountChanged account => exact hf.fetch fun hc => hevent hc
    | chainChanged chain =>
      exact hf.fetchConnected hw fun hc hnone =>
        absurd hnone (Session.account_of_chainChanged (hevent hc))
    | disconnected =>
      refine ⟨⟨hle, fun _ => ⟨e, hlast, hagrees⟩⟩, ?_, fun _ _ _ => rfl, ?_⟩
      · intro _ account h
        exact absurd (hw.symm.trans h) (by simp)
      · intro hc _ account ha
        exact absurd ((Session.account_of_disconnected (hevent hc)).symm.trans ha) (by simp)

theorem Settled.next {m : Move} (hs : Settled fetched r) (h : r.next? m = some r') :
    Settled (fetched ++ r.completes m) r' := by
  cases m with
  | wallet step =>
    cases h
    simpa [completes] using hs.wallet (Session.leads_step r.scene.session step)
  | elapse ms =>
    cases h
    simpa [completes] using hs.elapse ms
  | stop =>
    cases h
    have hf : Followed { r with tracker := { r.tracker with stopping := true } } :=
      ⟨hs.position_le, hs.last⟩
    simpa [completes] using ⟨hf, hs.fetching, hs.unknown, hs.shown⟩
  | shutDown =>
    rw [next?, ifWaiting] at h
    split at h
    · split at h
      · cases h
        simpa [completes] using hs.shutDown
      · cases h
    · cases h
  | receive =>
    rw [next?, ifWaiting] at h
    split at h
    · next hw => simpa [completes] using hs.receive hw h
    · cases h
  | tick =>
    rw [next?, ifWaiting] at h
    split at h
    · next hw => simpa [completes] using hs.tick hw h
    · cases h
  | answer result =>
    rw [next?, answer?] at h
    split at h
    · next account hf =>
      cases h
      simpa only [completes, hf] using hs.answer hf result
    · cases h

theorem Reached.settled {scene : Scene} {interval : Nat} (hview : scene.view = .unknown)
    (hr : Reached (Run.start scene interval) fetched r) : Settled fetched r := by
  induction hr with
  | start => exact settled_start hview
  | move _ hm ih => exact ih.next hm

theorem view_at_rest {scene : Scene} {interval : Nat} (hview : scene.view = .unknown)
    (hr : Reached (Run.start scene interval) fetched r) (hidle : r.Idle) :
    (r.scene.session.isConnected = false → r.scene.view = .unknown) ∧
      ∀ account, r.scene.session.account? = some account →
        ∃ answer, fetched.getLast? = some (account, answer) ∧
          ((∃ raw, answer = .ok raw ∧ r.scene.view = .loaded raw) ∨
            ∃ e, answer = .error e ∧ r.scene.view = .error e.message) := by
  have hs := hr.settled hview
  obtain ⟨hw, hunread, hdue⟩ := hidle
  have hc : r.CaughtUp := Wallet.Subscription.unread_eq_nil_iff.1 hunread
  constructor
  · intro hdisconnected
    have hnone : r.scene.session.account? = none := by
      simpa [Session.isConnected, Session.account?] using hdisconnected
    exact hs.unknown hc hw hnone
  · intro account ha
    rcases hs.shown hc hw account ha with hlate | ⟨answer, hlast, hanswer⟩
    · simp [Ticker.isDue] at hdue
      omega
    · cases answer with
      | ok raw => exact ⟨_, hlast, .inl ⟨raw, rfl, hanswer⟩⟩
      | error e => exact ⟨_, hlast, .inr ⟨e, rfl, hanswer⟩⟩

def away : Address := ⟨List.replicate 20 1, by decide⟩
def home : Address := ⟨List.replicate 20 2, by decide⟩

def crowded : Option (List Fetched × Run) :=
  play (start ⟨.new [], .unknown, 0⟩ 1000) []
    ([.tick, .wallet (.connect ⟨away, 56⟩), .receive] ++
      (List.replicate 20 [Move.wallet (.changeAccount home), .wallet (.changeAccount away)]).flatten ++
      [.wallet (.changeAccount home), .answer (.error (.contractCall "late"))] ++
      (List.replicate 32 [Move.receive, .answer (.ok ⟨7, by decide⟩)]).flatten)

theorem view_at_rest_crowded :
    ∃ fetched r, crowded = some (fetched, r) ∧ fetched.length = 33 ∧
      r.scene.session.events.length = 42 ∧ r.Idle ∧ r.scene.session.account? = some home ∧
      ∃ answer, fetched.getLast? = some (home, answer) ∧
        ((∃ raw, answer = .ok raw ∧ r.scene.view = .loaded raw) ∨
          ∃ e, answer = .error e ∧ r.scene.view = .error e.message) := by
  have hsome : crowded.isSome := by decide +kernel
  obtain ⟨⟨fetched, r⟩, hplay⟩ := Option.isSome_iff_exists.1 hsome
  have hend : crowded.all fun x => x.1.length = 33 ∧ x.2.scene.session.events.length = 42 ∧
      x.2.tracker.activity = .waiting ∧
      x.2.tracker.subscription.unread x.2.scene.session.events = [] ∧
      x.2.tracker.ticker.isDue x.2.scene.now = false ∧
      x.2.scene.session.account? = some home := by decide +kernel
  simp only [hplay, Option.all_some, decide_eq_true_eq] at hend
  obtain ⟨hfetched, hevents, hwaiting, hunread, hdue, haccount⟩ := hend
  have hidle : r.Idle := ⟨hwaiting, hunread, hdue⟩
  have hshown := (view_at_rest rfl (Reached.start.play hplay) hidle).2 home haccount
  exact ⟨fetched, r, hplay, hfetched, hevents, hidle, haccount, hshown⟩

end Run
end TokenBridge.Balance
