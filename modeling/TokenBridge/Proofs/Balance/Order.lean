import TokenBridge.Proofs.Balance.AtRest
import TokenBridge.Proofs.Turns
import TokenBridge.Proofs.Wallet.Session
import TokenBridge.Proofs.Wallet.Subscription

namespace TokenBridge.Balance

open Wallet (Session Event Subscription)

def Act.event? : Act → Option Event
  | .handle e => some e
  | _ => none

def Act.view? : Act → Option View
  | .publish view => some view
  | _ => none

def Activity.account? : Activity → Option Address
  | .fetching account => some account
  | _ => none

/-- What comes of an event, given the session at the moment it is handled. -/
def reaction (s : Session) : Event → List Act
  | .connected c => [.fetch c.account]
  | .accountChanged account => [.fetch account]
  | .chainChanged _ => s.account?.toList.map .fetch
  | .disconnected => [.publish .unknown]

def Move.isOutside : Move → Bool
  | .wallet _ | .elapse _ | .stop => true
  | .shutDown | .receive | .tick | .answer _ => false

def Move.isOwn : Move → Bool
  | .shutDown | .receive | .tick => true
  | .wallet _ | .elapse _ | .stop | .answer _ => false

namespace Run

def acts (r : Run) : Move → List Act
  | .wallet _ | .elapse _ | .stop | .shutDown => []
  | .receive =>
    (r.tracker.subscription.receive r.scene.session.events).1.toList.flatMap fun e =>
      .handle e :: reaction r.scene.session e
  | .tick => .tick r.scene.now :: r.scene.session.account?.toList.map .fetch
  | .answer result => [.publish (.ofAnswer result)]

structure Turn where
  before : Run
  move : Move
  after : Run

namespace Turn

def acts (t : Turn) : List Act :=
  t.before.acts t.move

def completes (t : Turn) : List Fetched :=
  t.before.completes t.move

end Turn

/-- The runs from a beginning, each with the turns that led to it. -/
inductive Course (first : Run) : List Turn → Run → Prop
  | start : Course first [] first
  | turn {turns : List Turn} {r r' : Run} {m : Move} :
      Course first turns r → r.next? m = some r' → Course first (turns ++ [⟨r, m, r'⟩]) r'

inductive Shifts : Activity → Move → List Address → Activity → Prop
  | outside {m : Move} (activity : Activity) : m.isOutside → Shifts activity m [] activity
  | call {m : Move} (account : Address) : m.isOwn → Shifts .waiting m [account] (.fetching account)
  | noCall {m : Move} {activity : Activity} :
      m.isOwn → activity.account? = none → Shifts .waiting m [] activity
  | answer (account : Address) (result : Except NetworkError Word) :
      Shifts (.fetching account) (.answer result) [] .waiting

/-- The fetch that was begun in a turn is pending, and only the wallet, the clock or whoever stops the tracker
moved since then. -/
structure Pending (t : Turn) (account : Address) (since : List Turn) : Prop where
  own : t.move.isOwn
  fetches : t.acts.filterMap Act.account? = [account]
  outside : ∀ x ∈ since, x.move.isOutside

structure Does (r : Run) (m : Move) (acts : List Act) (r' : Run) : Prop where
  journal_eq : r'.journal = r.journal ++ acts
  view_eq : r'.scene.view = (acts.filterMap Act.view?).getLast?.getD r.scene.view
  grows : ∃ more, r'.scene.session.events = r.scene.session.events ++ more
  reads : r.tracker.subscription.Reads r.scene.session.events (acts.filterMap Act.event?)
    r'.tracker.subscription
  shifts : Shifts r.tracker.activity m (acts.filterMap Act.account?) r'.tracker.activity

variable {first r r' : Run} {m : Move} {turns : List Turn}

theorem does_outside (hout : m.isOutside) (h : r.next? m = some r') : r.Does m [] r' := by
  have hshifts := Shifts.outside r.tracker.activity hout
  cases m with
  | wallet step =>
    cases h
    refine ⟨(List.append_nil _).symm, rfl, ?_, .nothing _, hshifts⟩
    cases Session.leads_step r.scene.session step with
    | silently hevents _ => exact ⟨[], by simpa using hevents⟩
    | telling e hevents _ => exact ⟨[e], hevents⟩
  | elapse | stop =>
    cases h
    exact ⟨(List.append_nil _).symm, rfl, ⟨[], (List.append_nil _).symm⟩, .nothing _, hshifts⟩
  | shutDown | receive | tick | answer => cases hout

inductive Follows (r : Run) : List Act → Run → Prop
  | nothing : Follows r [] r
  | fetch (account : Address) : Follows r [.fetch account] (r.fetch account)
  | publish (view : View) : Follows r [.publish view] (r.publish view)

theorem follows_fetchConnected (r : Run) :
    r.Follows (r.scene.session.account?.toList.map .fetch) r.fetchConnected := by
  rw [fetchConnected]
  cases r.scene.session.account? with
  | none => exact .nothing
  | some account => exact .fetch account

theorem follows_handle (r : Run) (e : Event) : r.Follows (reaction r.scene.session e) (r.handle e) := by
  cases e with
  | connected c => exact .fetch c.account
  | accountChanged account => exact .fetch account
  | chainChanged chain => exact follows_fetchConnected r
  | disconnected => exact .publish .unknown

theorem Follows.no_event {acts : List Act} (hf : Follows r acts r') : acts.filterMap Act.event? = [] := by
  cases hf <;> rfl

theorem Follows.scene_eq {acts : List Act} (hf : Follows r acts r') :
    r'.scene = { r.scene with view := (acts.filterMap Act.view?).getLast?.getD r.scene.view } := by
  cases hf <;> rfl

theorem Follows.journal_eq {acts : List Act} (hf : Follows r acts r') : r'.journal = r.journal ++ acts := by
  cases hf with
  | nothing => exact (List.append_nil _).symm
  | fetch | publish => rfl

theorem Follows.subscription_eq {acts : List Act} (hf : Follows r acts r') :
    r'.tracker.subscription = r.tracker.subscription := by
  cases hf <;> rfl

theorem Follows.shifts {acts : List Act} (hf : Follows r acts r') (hw : r.tracker.activity = .waiting)
    (hown : m.isOwn) : Shifts .waiting m (acts.filterMap Act.account?) r'.tracker.activity := by
  cases hf with
  | fetch account => exact .call account hown
  | nothing | publish => exact .noCall hown (congrArg Activity.account? hw)

theorem Follows.does {subscription : Subscription} {ticker : Ticker} {act : Act} {more : List Act}
    (hf : Follows (record { r with tracker := { r.tracker with subscription, ticker } } act) more r')
    (hw : r.tracker.activity = .waiting) (hown : m.isOwn) (hfetch : act.account? = none)
    (hpublish : act.view? = none)
    (hreads : r.tracker.subscription.Reads r.scene.session.events act.event?.toList subscription) :
    r.Does m (act :: more) r' where
  journal_eq := by rw [hf.journal_eq, record, List.append_assoc, List.singleton_append]
  view_eq := by
    rw [hf.scene_eq, List.filterMap_cons_none hpublish]
    rfl
  grows := ⟨[], by rw [hf.scene_eq, List.append_nil]; rfl⟩
  reads := by
    have hevents : (act :: more).filterMap Act.event? = act.event?.toList := by
      cases h : act.event? with
      | none => rw [List.filterMap_cons_none h, hf.no_event, Option.toList_none]
      | some e => rw [List.filterMap_cons_some h, hf.no_event, Option.toList_some]
    rwa [hevents, hf.subscription_eq]
  shifts := by
    rw [hw, List.filterMap_cons_none hfetch]
    exact hf.shifts hw hown

theorem does_tick (hw : r.tracker.activity = .waiting) (h : r.tick? = some r') :
    r.Does .tick (r.acts .tick) r' := by
  rw [tick?] at h
  split at h
  · cases h
    exact (follows_fetchConnected _).does hw rfl rfl rfl (.nothing _)
  · cases h

theorem does_receive (hw : r.tracker.activity = .waiting) (h : r.receive? = some r') :
    r.Does .receive (r.acts .receive) r' := by
  rw [receive?] at h
  split at h
  · cases h
  · next e subscription hreceive =>
    cases h
    have hacts : r.acts .receive = .handle e :: reaction r.scene.session e := by
      simp [acts, hreceive]
    rw [hacts]
    exact (follows_handle _ e).does hw rfl rfl rfl (.next hreceive (.nothing _))

theorem ifWaiting_eq_some {next : Option Run} (h : r.ifWaiting next = some r') :
    r.tracker.activity = .waiting ∧ next = some r' := by
  rw [ifWaiting] at h
  split at h
  · next hw => exact ⟨hw, h⟩
  · cases h

theorem does_shutDown (hw : r.tracker.activity = .waiting)
    (h : (if r.tracker.stopping then some (r.become .finished) else none) = some r') :
    r.Does .shutDown [] r' := by
  split at h
  · cases h
    refine ⟨(List.append_nil _).symm, rfl, ⟨[], (List.append_nil _).symm⟩, .nothing _, ?_⟩
    rw [hw]
    exact .noCall rfl rfl
  · cases h

theorem does_answer {result : Except NetworkError Word} (h : r.answer? result = some r') :
    r.Does (.answer result) [.publish (.ofAnswer result)] r' := by
  rw [answer?] at h
  split at h
  · next account hf =>
    cases h
    refine ⟨rfl, rfl, ⟨[], (List.append_nil _).symm⟩, .nothing _, ?_⟩
    rw [hf]
    exact .answer account result
  · cases h

theorem does_next (h : r.next? m = some r') : r.Does m (r.acts m) r' := by
  cases m with
  | wallet | elapse | stop => exact does_outside rfl h
  | shutDown => exact does_shutDown (ifWaiting_eq_some h).1 (ifWaiting_eq_some h).2
  | receive => exact does_receive (ifWaiting_eq_some h).1 (ifWaiting_eq_some h).2
  | tick => exact does_tick (ifWaiting_eq_some h).1 (ifWaiting_eq_some h).2
  | answer result => exact does_answer h

theorem completes_eq_nil (r : Run) (hm : m.isOutside ∨ m.isOwn) : r.completes m = [] := by
  cases m with
  | answer result => simp [Move.isOutside, Move.isOwn] at hm
  | wallet | elapse | stop | shutDown | receive | tick => rfl

namespace Shifts

variable {calls : List Address} {activity activity' : Activity} {account : Address}

theorem completes (hs : Shifts activity m calls activity') (hr : r.tracker.activity = activity) :
    activity.account?.toList ++ calls = (r.completes m).map Prod.fst ++ activity'.account?.toList := by
  cases hs with
  | outside activity hout =>
    rw [completes_eq_nil r (.inl hout)]
    exact List.append_nil _
  | call account hown =>
    rw [completes_eq_nil r (.inr hown)]
    rfl
  | noCall hown hnone =>
    rw [completes_eq_nil r (.inr hown), hnone]
    rfl
  | answer account result =>
    rw [Run.completes, hr]
    rfl

theorem waiting_of_own (hs : Shifts activity m calls activity') (hown : m.isOwn) :
    activity = .waiting := by
  cases hs with
  | outside activity hout => cases m <;> cases hout <;> cases hown
  | call | noCall => rfl
  | answer => cases hown

theorem fetching_of_call (hs : Shifts activity m [account] activity') :
    m.isOwn ∧ activity' = .fetching account := by
  cases hs with
  | call account hown => exact ⟨hown, rfl⟩

theorem of_fetching (hs : Shifts (.fetching account) m calls activity') :
    m.isOutside ∧ activity' = .fetching account ∨ ∃ result, m = .answer result ∧ activity' = .waiting := by
  cases hs with
  | outside activity hout => exact .inl ⟨hout, rfl⟩
  | answer account result => exact .inr ⟨result, rfl, rfl⟩

theorem fetching_of_answer {result : Except NetworkError Word}
    (hs : Shifts activity (.answer result) calls activity') : ∃ account, activity = .fetching account := by
  cases hs with
  | outside _ hout => cases hout
  | call _ hown | noCall hown => cases hown
  | answer account => exact ⟨account, rfl⟩

theorem to_fetching (hs : Shifts activity m calls (.fetching account)) :
    m.isOutside ∧ activity = .fetching account ∨ m.isOwn ∧ calls = [account] := by
  cases hs with
  | outside activity hout => exact .inl ⟨hout, rfl⟩
  | call account hown => exact .inr ⟨hown, rfl⟩
  | noCall hown hnone => cases hnone

end Shifts

theorem Pending.concat {t x : Turn} {account : Address} {since : List Turn} (hp : Pending t account since)
    (hx : x.move.isOutside) : Pending t account (since ++ [x]) where
  own := hp.own
  fetches := hp.fetches
  outside y hy := (List.mem_append.1 hy).elim (hp.outside y) fun h => List.mem_singleton.1 h ▸ hx

namespace Course

theorem before {earlier later : List Turn} {t : Turn} (hc : Course first turns r)
    (hsplit : turns = earlier ++ t :: later) :
    Course first earlier t.before ∧ t.before.next? t.move = some t.after := by
  induction hc generalizing later with
  | start => simp at hsplit
  | @turn turns r r' m hc hm ih =>
    rcases split_concat hsplit with ⟨rfl, rfl, -⟩ | ⟨init, -, hturns⟩
    · exact ⟨hc, hm⟩
    · exact ih hturns

theorem journal_eq (hc : Course first turns r) : r.journal = first.journal ++ turns.flatMap Turn.acts := by
  induction hc with
  | start => exact (List.append_nil _).symm
  | turn _ hm ih =>
    rw [(does_next hm).journal_eq, ih, List.flatMap_append, List.flatMap_singleton, List.append_assoc]
    rfl

theorem view_eq (hc : Course first turns r) :
    r.scene.view = ((turns.flatMap Turn.acts).filterMap Act.view?).getLast?.getD first.scene.view := by
  induction hc with
  | start => rfl
  | turn _ hm ih =>
    rw [(does_next hm).view_eq, ih, List.flatMap_append, List.flatMap_singleton, List.filterMap_append,
      List.getLast?_append, Option.getD_or]
    rfl

theorem delivered (hc : Course first turns r)
    (hfirst : first.tracker.subscription = .begin first.scene.session.events) :
    ∃ places, r.tracker.subscription.Delivered first.scene.session.events.length
      r.scene.session.events places ((turns.flatMap Turn.acts).filterMap Act.event?) := by
  induction hc with
  | start =>
    rw [hfirst]
    exact ⟨[], Subscription.delivered_begin _⟩
  | turn _ hm ih =>
    obtain ⟨places, hdelivered⟩ := ih
    obtain ⟨more, hmore⟩ := (does_next hm).grows
    obtain ⟨newer, hdelivered⟩ := (does_next hm).reads.delivered hdelivered
    rw [hmore, List.flatMap_append, List.flatMap_singleton, List.filterMap_append]
    exact ⟨places ++ newer, hdelivered.emit more⟩

theorem fetched (hc : Course first turns r) (hfirst : first.tracker.activity = .waiting) :
    (turns.flatMap Turn.acts).filterMap Act.account? =
      (turns.flatMap Turn.completes).map Prod.fst ++ r.tracker.activity.account?.toList := by
  induction hc with
  | start =>
    rw [hfirst]
    rfl
  | @turn turns r r' m _ hm ih =>
    have hcompletes := (does_next hm).shifts.completes rfl
    rw [List.flatMap_append, List.flatMap_append, List.flatMap_singleton, List.flatMap_singleton,
      List.filterMap_append, ih, List.map_append, List.append_assoc, List.append_assoc]
    exact congrArg _ hcompletes

theorem since {earlier later : List Turn} {t : Turn} (hc : Course first turns r)
    (hsplit : turns = earlier ++ t :: later) : Course t.before (t :: later) r := by
  induction hc generalizing later with
  | start => simp at hsplit
  | turn _ hm ih =>
    rcases split_concat hsplit with ⟨-, rfl, rfl⟩ | ⟨init, rfl, hturns⟩
    · exact Course.start.turn hm
    · exact (ih hturns).turn hm

theorem pending (hc : Course first turns r) (hfirst : first.tracker.activity = .waiting)
    {account : Address} (hr : r.tracker.activity = .fetching account) :
    ∃ earlier t since, turns = earlier ++ t :: since ∧ Pending t account since := by
  induction hc with
  | start =>
    rw [hfirst] at hr
    cases hr
  | @turn turns r r' m _ hm ih =>
    have hshifts := (does_next hm).shifts
    rw [hr] at hshifts
    rcases hshifts.to_fetching with ⟨hout, hr⟩ | ⟨hown, hcall⟩
    · obtain ⟨earlier, t, since, rfl, hpending⟩ := ih hr
      exact ⟨earlier, t, since ++ [⟨r, m, r'⟩], by simp, hpending.concat hout⟩
    · exact ⟨turns, _, [], rfl, hown, hcall, by simp⟩

theorem answers_own {earlier mid rest : List Turn} {t u : Turn} {result : Except NetworkError Word}
    (hc : Course first turns r) (hsplit : turns = earlier ++ t :: (mid ++ u :: rest))
    (hown : t.move.isOwn) (hanswer : u.move = .answer result) :
    ∃ init c between account, t :: mid = init ++ c :: between ∧ Pending c account between ∧
      u.before.tracker.activity = .fetching account := by
  have hwaiting := (does_next (hc.before hsplit).2).shifts.waiting_of_own hown
  obtain ⟨hmid, hu⟩ := (hc.since hsplit).before (List.cons_append ..).symm
  have hshifts := (does_next hu).shifts
  rw [hanswer] at hshifts
  obtain ⟨account, hfetching⟩ := hshifts.fetching_of_answer
  obtain ⟨init, c, between, hturns, hpending⟩ := hmid.pending hwaiting hfetching
  exact ⟨init, c, between, account, hturns, hpending, hfetching⟩

theorem call_answered {earlier later : List Turn} {c : Turn} {account : Address}
    (hc : Course first turns r) (hsplit : turns = earlier ++ c :: later)
    (hcall : c.acts.filterMap Act.account? = [account]) :
    Pending c account later ∧ r.tracker.activity = .fetching account ∨
      ∃ between u rest result, later = between ++ u :: rest ∧ Pending c account between ∧
        u.move = .answer result ∧ u.before.tracker.activity = .fetching account ∧
        u.after.scene.view = .ofAnswer result ∧ u.after.tracker.activity = .waiting := by
  induction hc generalizing later with
  | start => simp at hsplit
  | @turn turns r r' m _ hm ih =>
    have hdoes := does_next hm
    rcases split_concat hsplit with ⟨-, rfl, rfl⟩ | ⟨init, rfl, hturns⟩
    · have hshifts := hdoes.shifts
      rw [show (r.acts m).filterMap Act.account? = [account] from hcall] at hshifts
      obtain ⟨hown, hactivity⟩ := hshifts.fetching_of_call
      exact .inl ⟨⟨hown, hcall, by simp⟩, hactivity⟩
    · rcases ih hturns with ⟨hpending, hfetching⟩ | ⟨between, u, rest, result, rfl, hanswered⟩
      · have hshifts := hdoes.shifts
        rw [hfetching] at hshifts
        rcases hshifts.of_fetching with ⟨hout, hactivity⟩ | ⟨result, rfl, hactivity⟩
        · exact .inl ⟨hpending.concat hout, hactivity⟩
        · exact .inr ⟨init, _, [], result, rfl, hpending, rfl, hfetching, hdoes.view_eq, hactivity⟩
      · refine .inr ⟨between, u, rest ++ [⟨r, m, r'⟩], result, ?_, hanswered⟩
        rw [List.append_assoc, List.cons_append]

end Course

theorem publishes_in_order {scene : Scene} {interval : Nat} (hc : Course (start scene interval) turns r) :
    r.journal = turns.flatMap Turn.acts ∧
    r.scene.view = (r.journal.filterMap Act.view?).getLast?.getD scene.view ∧
    (∃ places, r.tracker.subscription.Delivered scene.session.events.length r.scene.session.events places
      (r.journal.filterMap Act.event?)) ∧
    r.journal.filterMap Act.account? =
      (turns.flatMap Turn.completes).map Prod.fst ++ r.tracker.activity.account?.toList ∧
    (∀ earlier c later account, turns = earlier ++ c :: later →
      c.acts.filterMap Act.account? = [account] →
      Pending c account later ∧ r.tracker.activity = .fetching account ∨
        ∃ between u rest result, later = between ++ u :: rest ∧ Pending c account between ∧
          u.move = .answer result ∧ u.before.tracker.activity = .fetching account ∧
          u.after.scene.view = .ofAnswer result ∧ u.after.tracker.activity = .waiting) ∧
    (∀ earlier t later, turns = earlier ++ t :: later → t.move.isOwn →
      t.before.tracker.activity = .waiting ∧
        ∀ mid u rest result, later = mid ++ u :: rest → u.move = .answer result →
          ∃ init c between account, t :: mid = init ++ c :: between ∧ Pending c account between ∧
            u.before.tracker.activity = .fetching account) := by
  have hjournal : r.journal = turns.flatMap Turn.acts := hc.journal_eq
  rw [hjournal]
  refine ⟨rfl, hc.view_eq, hc.delivered rfl, hc.fetched rfl, fun earlier c later account hsplit hcall => ?_,
    fun earlier t later hsplit hown => ⟨?_, fun mid u rest result hlater hanswer => ?_⟩⟩
  · exact hc.call_answered hsplit hcall
  · exact (does_next (hc.before hsplit).2).shifts.waiting_of_own hown
  · exact hc.answers_own (hlater ▸ hsplit) hown hanswer

def course? : Run → List Move → Option (List Turn × Run)
  | r, [] => some ([], r)
  | r, m :: moves =>
    match r.next? m with
    | some r' => (course? r' moves).map fun (turns, last) => (⟨r, m, r'⟩ :: turns, last)
    | none => none

theorem Course.play {later : List Turn} {moves : List Move} (hc : Course first turns r)
    (hp : r.course? moves = some (later, r')) : Course first (turns ++ later) r' := by
  induction moves generalizing turns r later with
  | nil =>
    cases hp
    rwa [List.append_nil]
  | cons m moves ih =>
    rw [course?] at hp
    split at hp
    · next r₁ hm =>
      obtain ⟨⟨rest, last⟩, hrest, hlast⟩ := Option.map_eq_some_iff.1 hp
      cases hlast
      simpa using ih (hc.turn hm) hrest
    · cases hp

theorem seven_lt : 7 < Nat.pow 2 256 := by
  decide

def overtaken : Option (List Turn × Run) :=
  (start ⟨.new [], .unknown, 0⟩ 1000).course?
    [.tick, .wallet (.connect ⟨away, 56⟩), .receive, .wallet (.changeAccount home), .elapse 2000,
      .answer (.ok ⟨7, seven_lt⟩), .receive, .wallet .disconnect, .answer (.error (.contractCall "late")),
      .receive, .stop, .shutDown]

theorem publishes_in_order_overtaken :
    ∃ turns r, overtaken = some (turns, r) ∧ r.tracker.activity = .finished ∧
      r.journal = [.tick 0, .handle (.connected ⟨⟨List.replicate 20 1, by decide⟩, 56⟩),
        .fetch ⟨List.replicate 20 1, by decide⟩, .publish (.loaded ⟨7, by decide⟩),
        .handle (.accountChanged ⟨List.replicate 20 2, by decide⟩),
        .fetch ⟨List.replicate 20 2, by decide⟩, .publish (.error (NetworkError.contractCall "late").message),
        .handle .disconnected, .publish .unknown] ∧
      r.journal = turns.flatMap Turn.acts ∧
      r.scene.view = (r.journal.filterMap Act.view?).getLast?.getD .unknown ∧
      ∃ places, r.tracker.subscription.Delivered 0 r.scene.session.events places
        (r.journal.filterMap Act.event?) := by
  have hsome : overtaken.isSome := by decide +kernel
  obtain ⟨⟨turns, r⟩, hcourse⟩ := Option.isSome_iff_exists.1 hsome
  have hend : overtaken.all fun x => x.2.tracker.activity = .finished ∧
      x.2.journal = [.tick 0, .handle (.connected ⟨⟨List.replicate 20 1, by decide⟩, 56⟩),
        .fetch ⟨List.replicate 20 1, by decide⟩, .publish (.loaded ⟨7, by decide⟩),
        .handle (.accountChanged ⟨List.replicate 20 2, by decide⟩),
        .fetch ⟨List.replicate 20 2, by decide⟩, .publish (.error (NetworkError.contractCall "late").message),
        .handle .disconnected, .publish .unknown] := by decide +kernel
  simp only [hcourse, Option.all_some, decide_eq_true_eq] at hend
  obtain ⟨hactivity, hdone⟩ := hend
  obtain ⟨hjournal, hview, hdelivered, -⟩ := publishes_in_order (Course.start.play hcourse)
  exact ⟨turns, r, hcourse, hactivity, hdone, hjournal, hview, hdelivered⟩

end Run
end TokenBridge.Balance
