import TokenBridge.Proofs.Turns
import TokenBridge.Proofs.Wallet.Session
import TokenBridge.Proofs.Wallet.Subscription
import TokenBridge.Wallet.Hub

namespace TokenBridge.Wallet.Hub

structure Turn where
  before : Hub
  step : Step
  result : Result
  after : Hub

def turn (h : Hub) (step : Step) : Turn :=
  ⟨h, step, (h.step step).1, (h.step step).2⟩

/-- Hubs with the turns that led to them. -/
inductive Reached (supported : List Nat) : List Turn → Hub → Prop
  | start : Reached supported [] (.start supported)
  | turn {turns : List Turn} {h : Hub} (step : Step) :
      Reached supported turns h → Reached supported (turns ++ [h.turn step]) (h.step step).2

def Step.follower? : Step → Option String
  | .subscribe name | .unsubscribe name | .tryReceive name | .drain name | .receive name => some name
  | .session _ | .dropSession => none

def Result.delivers : Result → List Event
  | .event e | .received e => e.toList
  | .events es => es
  | .none | .session _ | .pending | .noSession | .noSubscription => []

namespace Turn

def begins (name : String) (t : Turn) : Prop :=
  t.step = .subscribe name ∧ t.before.live = true

def ends (name : String) (t : Turn) : Prop :=
  t.step = .unsubscribe name ∨ t.begins name

instance (name : String) (t : Turn) : Decidable (t.ends name) :=
  inferInstanceAs (Decidable (_ ∨ _ ∧ _))

def deliveredTo (name : String) (t : Turn) : List Event :=
  if t.step.follower? = some name then t.result.delivers else []

end Turn

def delivered (name : String) (turns : List Turn) : List Event :=
  turns.flatMap (Turn.deliveredTo name)

/-- The subscription of this name that lasts until after these turns, with the turn it began by and the turns
since then. -/
structure Follows (name : String) (turns : List Turn) (t : Turn) (later : List Turn) : Prop where
  split : ∃ earlier, turns = earlier ++ t :: later
  begins : t.begins name
  lasts : ∀ x ∈ later, ¬ x.ends name

/-- At no moment since the subscription began behind `base` events are more than 32 of them undelivered. -/
def InTime (name : String) (base : Nat) (later : List Turn) (h : Hub) : Prop :=
  (∀ mid x rest, later = mid ++ x :: rest →
    x.before.session.events.length ≤ base + (delivered name mid).length + bufferSize) ∧
  h.session.events.length ≤ base + (delivered name later).length + bufferSize

variable {supported : List Nat} {h : Hub} {name other : String} {s s' : Subscription} {step : Step}
  {turns later : List Turn} {t x : Turn}

theorem find?_drop_self (h : Hub) (name : String) : (h.drop name).find? name = none := by
  rw [find?, List.lookup_eq_none_iff]
  intro p hp
  have hne := (List.mem_filter.1 hp).2
  simp only [ne_eq, decide_not, Bool.not_eq_true', decide_eq_false_iff_not] at hne
  simpa using Ne.symm hne

theorem find?_drop_ne (h : Hub) (hne : other ≠ name) : (h.drop name).find? other = h.find? other := by
  rw [find?, find?, drop]
  induction h.subscriptions with
  | nil => rfl
  | cons p rest ih =>
    obtain ⟨key, s⟩ := p
    by_cases hkey : key = name
    · have hother : (other == key) = false := by simpa [hkey] using hne
      rw [List.filter_cons_of_neg (by simpa using hkey), ih, List.lookup_cons, hother]
    · rw [List.filter_cons_of_pos (by simpa using hkey), List.lookup_cons, List.lookup_cons, ih]

theorem find?_put_self (h : Hub) (name : String) (s : Subscription) :
    (h.put name s).find? name = some s := by
  have hdrop := find?_drop_self h name
  rw [find?] at hdrop
  rw [find?, put, List.lookup_append, hdrop]
  simp

theorem find?_put_ne (h : Hub) (s : Subscription) (hne : other ≠ name) :
    (h.put name s).find? other = h.find? other := by
  have hdrop := find?_drop_ne h hne
  rw [find?] at hdrop
  have hother : (other == name) = false := by simpa using hne
  rw [find?, put, List.lookup_append, hdrop, List.lookup_cons, hother]
  simp

inductive Serves (h : Hub) (name : String) : Step → List Event → Hub → Prop
  | begins : h.live = true → Serves h name (.subscribe name) [] (h.put name (.begin h.session.events))
  | refused : h.live = false → Serves h name (.subscribe name) [] h
  | leaves {s : Subscription} : h.find? name = some s → Serves h name (.unsubscribe name) [] (h.drop name)
  | unknown {step : Step} : h.find? name = none → step ≠ .subscribe name → Serves h name step [] h
  | reads {step : Step} {s s' : Subscription} {es : List Event} :
      h.find? name = some s → step ≠ .subscribe name → step ≠ .unsubscribe name →
        s.Reads h.session.events es s' → Serves h name step es (h.put name s')

theorem step_tryReceive (hs : h.find? name = some s) :
    h.step (.tryReceive name) =
      (.event (s.receive h.session.events).1, h.put name (s.receive h.session.events).2) := by
  rw [Hub.step, hs]

theorem step_drain (hs : h.find? name = some s) :
    h.step (.drain name) =
      (.events (s.drain h.session.events).1, h.put name (s.drain h.session.events).2) := by
  rw [Hub.step, hs]

theorem step_receive (hs : h.find? name = some s) :
    h.step (.receive name) =
      (if h.live = true ∧ s.unread h.session.events = [] then .pending
        else .received (s.receive h.session.events).1,
        h.put name (s.receive h.session.events).2) := by
  rw [Hub.step, hs]
  rcases Subscription.receive_cases s h.session.events with ⟨hnil, hreceive⟩ | ⟨e, hunread, -, hreceive⟩
  · simp only [hreceive, hnil, and_true]
  · simp only [hreceive, hunread, List.cons_ne_nil, and_false, if_false]

theorem serves_step (h : Hub) (hname : step.follower? = some name) :
    Serves h name step (h.turn step).result.delivers (h.step step).2 := by
  cases step with
  | session | dropSession => cases hname
  | subscribe name =>
    cases hname
    rw [turn, Hub.step]
    split
    · next hlive => exact .begins hlive
    · next hgone => exact .refused (Bool.not_eq_true _ ▸ hgone)
  | unsubscribe name =>
    cases hname
    rw [turn, Hub.step]
    split
    · next hs => exact .leaves hs
    · next hnone => exact .unknown hnone nofun
  | tryReceive name =>
    cases hname
    cases hs : h.find? name with
    | some s =>
      rw [turn, step_tryReceive hs]
      exact .reads hs nofun nofun (Subscription.reads_receive s _)
    | none =>
      rw [turn, Hub.step, hs]
      exact .unknown hs nofun
  | drain name =>
    cases hname
    cases hs : h.find? name with
    | some s =>
      rw [turn, step_drain hs]
      exact .reads hs nofun nofun (Subscription.reads_drain s _)
    | none =>
      rw [turn, Hub.step, hs]
      exact .unknown hs nofun
  | receive name =>
    cases hname
    cases hs : h.find? name with
    | some s =>
      have hdelivers : (h.turn (.receive name)).result.delivers =
          (s.receive h.session.events).1.toList := by
        rw [turn, step_receive hs]
        dsimp only
        split
        · next hpending =>
          rw [Subscription.receive_fst, hpending.2]
          rfl
        · rfl
      rw [hdelivers, step_receive hs]
      exact .reads hs nofun nofun (Subscription.reads_receive s _)
    | none =>
      rw [turn, Hub.step, hs]
      exact .unknown hs nofun

theorem Serves.session {es : List Event} {h' : Hub} (hserves : Serves h name step es h') :
    h'.session = h.session ∧ h'.live = h.live := by
  cases hserves <;> exact ⟨rfl, rfl⟩

theorem Serves.find?_ne {es : List Event} {h' : Hub} (hserves : Serves h name step es h')
    (hne : other ≠ name) : h'.find? other = h.find? other := by
  cases hserves with
  | begins | reads => exact find?_put_ne h _ hne
  | leaves => exact find?_drop_ne h hne
  | refused | unknown => rfl

theorem step_unfollowed (h : Hub) (hname : step.follower? = none) :
    (h.step step).2.subscriptions = h.subscriptions := by
  cases step with
  | session | dropSession =>
    rw [Hub.step]
    split <;> rfl
  | subscribe | unsubscribe | tryReceive | drain | receive => cases hname

theorem find?_step_ne (h : Hub) (hother : step.follower? ≠ some other) :
    (h.step step).2.find? other = h.find? other := by
  cases hname : step.follower? with
  | some name =>
    refine (serves_step h hname).find?_ne ?_
    rintro rfl
    exact hother hname
  | none => rw [find?, find?, step_unfollowed h hname]

theorem step_events (h : Hub) (step : Step) :
    ∃ more, (h.step step).2.session.events = h.session.events ++ more ∧
      (h.live = false → more = [] ∧ (h.step step).2.live = false) := by
  cases hname : step.follower? with
  | some name =>
    obtain ⟨hsession, hlive⟩ := (serves_step h hname).session
    exact ⟨[], by rw [hsession, List.append_nil], fun hgone => ⟨rfl, hlive.trans hgone⟩⟩
  | none =>
    cases step with
    | session s =>
      rw [Hub.step]
      split
      · next hlive =>
        have hgone : ¬ h.live = false := by simp [hlive]
        cases Session.leads_step h.session s with
        | silently hevents _ => exact ⟨[], by simpa using hevents, fun h => absurd h hgone⟩
        | telling e hevents _ => exact ⟨[e], hevents, fun h => absurd h hgone⟩
      · next hgone => exact ⟨[], (List.append_nil _).symm, fun hgone => ⟨rfl, hgone⟩⟩
    | dropSession =>
      rw [Hub.step]
      split
      · exact ⟨[], (List.append_nil _).symm, fun _ => ⟨rfl, rfl⟩⟩
      · exact ⟨[], (List.append_nil _).symm, fun hgone => ⟨rfl, hgone⟩⟩
    | subscribe | unsubscribe | tryReceive | drain | receive => cases hname

theorem Serves.keeps {es : List Event} {h' : Hub} (hserves : Serves h name step es h')
    (hs : h.find? name = some s) (hends : ¬ (h.turn step).ends name) :
    ∃ s', h'.find? name = some s' ∧ s.Reads h.session.events es s' := by
  cases hserves with
  | begins hlive => exact absurd (.inr ⟨rfl, hlive⟩) hends
  | refused => exact ⟨s, hs, .nothing s⟩
  | leaves => exact absurd (.inl rfl) hends
  | unknown hnone =>
    rw [hs] at hnone
    cases hnone
  | reads hs' _ _ hreads =>
    rw [hs] at hs'
    cases hs'
    exact ⟨_, find?_put_self h name _, hreads⟩

theorem step_keeps (hs : h.find? name = some s) (hends : ¬ (h.turn step).ends name) :
    ∃ s', (h.step step).2.find? name = some s' ∧
      s.Reads h.session.events ((h.turn step).deliveredTo name) s' := by
  by_cases hname : step.follower? = some name
  · have hdelivered : (h.turn step).deliveredTo name = (h.turn step).result.delivers := if_pos hname
    rw [hdelivered]
    exact (serves_step h hname).keeps hs hends
  · have hnothing : (h.turn step).deliveredTo name = [] := if_neg hname
    rw [find?_step_ne h hname, hnothing]
    exact ⟨s, hs, .nothing s⟩

theorem delivered_concat (name : String) (turns : List Turn) (x : Turn) :
    delivered name (turns ++ [x]) = delivered name turns ++ x.deliveredTo name := by
  rw [delivered, delivered, List.flatMap_append, List.flatMap_singleton]

theorem follows_concat : Follows name (turns ++ [x]) t later ↔
    (x.begins name ∧ t = x ∧ later = []) ∨
      ∃ init, later = init ++ [x] ∧ Follows name turns t init ∧ ¬ x.ends name := by
  constructor
  · rintro ⟨⟨earlier, hsplit⟩, hbegins, hlasts⟩
    rcases split_concat hsplit with ⟨-, rfl, rfl⟩ | ⟨init, rfl, hturns⟩
    · exact .inl ⟨hbegins, rfl, rfl⟩
    · refine .inr ⟨init, rfl, ⟨⟨earlier, hturns⟩, hbegins, fun y hy => hlasts y ?_⟩, hlasts x ?_⟩
      · exact List.mem_append_left _ hy
      · exact List.mem_append_right _ (List.mem_singleton_self x)
  · rintro (⟨hbegins, rfl, rfl⟩ | ⟨init, rfl, ⟨⟨earlier, rfl⟩, hbegins, hlasts⟩, hends⟩)
    · exact ⟨⟨turns, rfl⟩, hbegins, by simp⟩
    · refine ⟨⟨earlier, by simp⟩, hbegins, fun y hy => ?_⟩
      rcases List.mem_append.1 hy with hy | hy
      · exact hlasts y hy
      · exact List.mem_singleton.1 hy ▸ hends

theorem Serves.isSome_find? {es : List Event} {h' : Hub} (hserves : Serves h name step es h') :
    (h'.find? name).isSome ↔
      (h.turn step).begins name ∨ (h.find? name).isSome ∧ ¬ (h.turn step).ends name := by
  rw [Turn.ends, Turn.begins]
  dsimp only [turn]
  cases hserves with
  | begins hlive => simp [find?_put_self, hlive]
  | refused hgone => simp [hgone]
  | leaves hs => simp [find?_drop_self]
  | unknown hnone hne => simp [hnone, hne]
  | reads hs hne hne' => simp [find?_put_self, hs, hne, hne']

theorem isSome_find?_step (h : Hub) (step : Step) (name : String) :
    ((h.step step).2.find? name).isSome ↔
      (h.turn step).begins name ∨ (h.find? name).isSome ∧ ¬ (h.turn step).ends name := by
  by_cases hname : step.follower? = some name
  · exact (serves_step h hname).isSome_find?
  · have hends : ¬ (h.turn step).ends name := by
      rintro (hleaves | ⟨hsubscribes, -⟩)
      · exact hname (congrArg Step.follower? hleaves)
      · exact hname (congrArg Step.follower? hsubscribes)
    have hbegins : ¬ (h.turn step).begins name := fun hbegins => hends (.inr hbegins)
    simp only [find?_step_ne h hname, hbegins, hends, not_false_eq_true, and_true, false_or]

theorem Reached.isSome_find?_iff (hr : Reached supported turns h) (name : String) :
    (h.find? name).isSome ↔ ∃ t later, Follows name turns t later := by
  induction hr with
  | start =>
    refine ⟨nofun, ?_⟩
    rintro ⟨t, later, ⟨earlier, hsplit⟩, -⟩
    simp at hsplit
  | @turn turns h step hr ih =>
    rw [isSome_find?_step, ih]
    constructor
    · rintro (hbegins | ⟨⟨t, later, hfollows⟩, hends⟩)
      · exact ⟨_, _, follows_concat.2 (.inl ⟨hbegins, rfl, rfl⟩)⟩
      · exact ⟨_, _, follows_concat.2 (.inr ⟨later, rfl, hfollows, hends⟩)⟩
    · rintro ⟨t, later, hfollows⟩
      rcases follows_concat.1 hfollows with ⟨hbegins, -, -⟩ | ⟨init, -, hfollows, hends⟩
      · exact .inl hbegins
      · exact .inr ⟨⟨t, init, hfollows⟩, hends⟩

theorem InTime.init {base : Nat} (hin : InTime name base (later ++ [h.turn step]) (h.step step).2) :
    InTime name base later h :=
  ⟨fun mid x rest hlater => hin.1 mid x (rest ++ [h.turn step]) (by simp [hlater]),
    hin.1 later (h.turn step) [] rfl⟩

theorem Reached.served (hr : Reached supported turns h) (hf : Follows name turns t later) :
    ∃ s places, h.find? name = some s ∧
      s.Delivered t.before.session.events.length h.session.events places (delivered name later) ∧
      (InTime name t.before.session.events.length later h →
        s.Gapless t.before.session.events.length h.session.events (delivered name later)) := by
  induction hr generalizing later with
  | start =>
    obtain ⟨earlier, hsplit⟩ := hf.split
    simp at hsplit
  | @turn turns h step hr ih =>
    rcases follows_concat.1 hf with ⟨hbegins, rfl, rfl⟩ | ⟨init, rfl, hf, hends⟩
    · obtain ⟨hstep, hlive⟩ := hbegins
      change step = .subscribe name at hstep
      change h.live = true at hlive
      have hafter : (h.step step).2 = h.put name (.begin h.session.events) := by
        rw [hstep, Hub.step, if_pos hlive]
      rw [hafter]
      exact ⟨_, [], find?_put_self h name _, Subscription.delivered_begin _, fun _ => rfl⟩
    · obtain ⟨s, places, hs, hdelivered, hgapless⟩ := ih hf
      obtain ⟨s', hs', hreads⟩ := step_keeps hs hends
      obtain ⟨more, hmore, -⟩ := step_events h step
      obtain ⟨newer, hdelivered'⟩ := hreads.delivered hdelivered
      rw [delivered_concat, hmore]
      refine ⟨s', places ++ newer, hs', hdelivered'.emit more, fun hin => ?_⟩
      have hgapless := hgapless hin.init
      have hkept : ¬ s.position + bufferSize < h.session.events.length := by
        have := hgapless.length_told hdelivered
        have := hin.init.2
        omega
      exact (hreads.gapless hgapless hkept).emit hdelivered' more

theorem mem_names_iff (h : Hub) (name : String) :
    name ∈ h.subscriptions.map Prod.fst ↔ (h.find? name).isSome := by
  rw [← not_iff_not, Option.not_isSome_iff_eq_none, find?, List.lookup_eq_none_iff, List.mem_map]
  simp only [not_exists, not_and, bne_iff_ne, ne_comm]

theorem nodup_names_drop (hnodup : (h.subscriptions.map Prod.fst).Nodup) (name : String) :
    ((h.drop name).subscriptions.map Prod.fst).Nodup :=
  hnodup.sublist (List.filter_sublist.map _)

theorem nodup_names_put (hnodup : (h.subscriptions.map Prod.fst).Nodup) (name : String)
    (s : Subscription) : ((h.put name s).subscriptions.map Prod.fst).Nodup := by
  have hnew : name ∉ (h.drop name).subscriptions.map Prod.fst := by
    rw [mem_names_iff, find?_drop_self]
    exact Bool.false_ne_true
  rw [put, List.map_append, List.map_singleton]
  refine List.nodup_append.2 ⟨nodup_names_drop hnodup name, List.pairwise_singleton .., ?_⟩
  intro key hkey key' hkey' heq
  rw [heq, List.mem_singleton.1 hkey'] at hkey
  exact hnew hkey

theorem Serves.nodup_names {es : List Event} {h' : Hub} (hserves : Serves h name step es h')
    (hnodup : (h.subscriptions.map Prod.fst).Nodup) : (h'.subscriptions.map Prod.fst).Nodup := by
  cases hserves with
  | begins | reads => exact nodup_names_put hnodup name _
  | leaves => exact nodup_names_drop hnodup name
  | refused | unknown => exact hnodup

theorem Reached.nodup_names (hr : Reached supported turns h) :
    (h.subscriptions.map Prod.fst).Nodup := by
  induction hr with
  | start => exact .nil
  | @turn turns h step hr ih =>
    cases hname : step.follower? with
    | some name => exact (serves_step h hname).nodup_names ih
    | none => rwa [step_unfollowed h hname]

theorem Reached.count (hr : Reached supported turns h) :
    ∃ names : List String, names.Nodup ∧ h.subscriberCount = names.length ∧
      ∀ name, name ∈ names ↔ ∃ t later, Follows name turns t later :=
  ⟨h.subscriptions.map Prod.fst, hr.nodup_names, List.length_map _ |>.symm, fun name =>
    (mem_names_iff h name).trans (hr.isSome_find?_iff name)⟩

theorem Reached.after_drop {earlier : List Turn} (hr : Reached supported turns h)
    (hsplit : turns = earlier ++ t :: later) (hgone : t.after.live = false)
    (hs : t.after.find? name = some s) (hlasts : ∀ x ∈ later, ¬ x.ends name) :
    h.live = false ∧ h.session.events = t.after.session.events ∧
      ∃ s', h.find? name = some s' ∧
        s.unread t.after.session.events = delivered name later ++ s'.unread t.after.session.events := by
  induction hr generalizing later with
  | start => simp at hsplit
  | @turn turns h step hr ih =>
    rcases split_concat hsplit with ⟨-, rfl, rfl⟩ | ⟨init, rfl, hturns⟩
    · exact ⟨hgone, rfl, s, hs, rfl⟩
    · obtain ⟨hlive, hevents, s', hs', hunread⟩ :=
        ih hturns fun x hx => hlasts x (List.mem_append_left _ hx)
      obtain ⟨more, hmore, hnone⟩ := step_events h step
      obtain ⟨hnil, hlive'⟩ := hnone hlive
      obtain ⟨s'', hs'', hreads⟩ := step_keeps hs'
        (hlasts _ (List.mem_append_right _ (List.mem_singleton_self _)))
      rw [hnil, List.append_nil] at hmore
      refine ⟨hlive', hmore.trans hevents, s'', hs'', ?_⟩
      rw [hevents] at hreads
      rw [hunread, delivered_concat, hreads.unread, List.append_assoc]

theorem Reached.before {earlier : List Turn} (hr : Reached supported turns h)
    (hsplit : turns = earlier ++ x :: later) :
    Reached supported earlier x.before ∧ x = x.before.turn x.step := by
  induction hr generalizing later with
  | start => simp at hsplit
  | @turn turns h step hr ih =>
    rcases split_concat hsplit with ⟨rfl, rfl, -⟩ | ⟨init, -, hturns⟩
    · exact ⟨hr, rfl⟩
    · exact ih hturns

theorem Reached.ended {earlier : List Turn} (hr : Reached supported turns h)
    (hsplit : turns = earlier ++ t :: later) (hgone : t.after.live = false)
    (hs : t.after.find? name = some s) (hlasts : ∀ x ∈ later, ¬ x.ends name)
    (hx : x ∈ later) (hstep : x.step = .receive name) (hresult : x.result = .received none)
    (hs' : h.find? name = some s') : s'.unread t.after.session.events = [] := by
  obtain ⟨mid, rest, rfl⟩ := List.append_of_mem hx
  have hbefore' : turns = (earlier ++ t :: mid) ++ x :: rest := by rw [hsplit, List.append_assoc]; rfl
  obtain ⟨hbefore, hturn⟩ := hr.before hbefore'
  obtain ⟨-, hevents, s₁, hs₁, hunread₁⟩ :=
    hbefore.after_drop rfl hgone hs fun y hy => hlasts y (List.mem_append_left _ hy)
  obtain ⟨-, -, s₂, hs₂, hunread₂⟩ := hr.after_drop hsplit hgone hs hlasts
  rw [hs'] at hs₂
  cases hs₂
  have hnil : s₁.unread t.after.session.events = [] := by
    rw [hturn, hstep, Hub.turn, step_receive hs₁, Subscription.receive_fst, hevents] at hresult
    dsimp only at hresult
    split at hresult
    · cases hresult
    · exact List.head?_eq_none_iff.1 (Result.received.inj hresult)
  have hlength := congrArg List.length (hunread₁.symm.trans hunread₂)
  rw [hnil, delivered, delivered, List.flatMap_append] at hlength
  simp only [List.length_append, List.length_nil] at hlength
  exact List.eq_nil_of_length_eq_zero (by omega)

theorem delivers_newest_in_order (hr : Reached supported turns h) :
    (∀ name t later, Follows name turns t later → ∃ s places,
      h.find? name = some s ∧
      s.Delivered t.before.session.events.length h.session.events places (delivered name later) ∧
      s.unread h.session.events =
        (h.session.events.drop
          (places.getLast?.elim t.before.session.events.length (· + 1))).rtake bufferSize ∧
      (InTime name t.before.session.events.length later h →
        delivered name later ++ s.unread h.session.events =
          h.session.events.drop t.before.session.events.length)) ∧
    (∀ name s, h.find? name = some s →
      ∃ event position, Channel.read h.session.events s.position = (event, position) ∧
        event = (s.unread h.session.events).head? ∧
        h.step (.tryReceive name) = (.event event, h.put name ⟨position⟩) ∧
        h.step (.receive name) =
          (if h.live = true ∧ s.unread h.session.events = [] then .pending else .received event,
            h.put name ⟨position⟩) ∧
        ∃ s', h.step (.drain name) = (.events (s.unread h.session.events), h.put name s') ∧
          s.Reads h.session.events (s.unread h.session.events) s' ∧ s'.unread h.session.events = []) ∧
    (∀ step name, step.follower? = some name →
      (h.step step).2.session = h.session ∧ (h.step step).2.live = h.live ∧
        ∀ other, other ≠ name → (h.step step).2.find? other = h.find? other) ∧
    (∃ names : List String, names.Nodup ∧ h.subscriberCount = names.length ∧
      ∀ name, name ∈ names ↔ ∃ t later, Follows name turns t later) ∧
    (∀ earlier t later name s, turns = earlier ++ t :: later → t.after.live = false →
      t.after.find? name = some s → (∀ x ∈ later, ¬ x.ends name) →
      ∃ s', h.find? name = some s' ∧
        s.unread t.after.session.events = delivered name later ++ s'.unread h.session.events ∧
        (h.step (.receive name)).1 = .received (s'.unread h.session.events).head? ∧
        ((∃ x ∈ later, x.step = .receive name ∧ x.result = .received none) →
          s'.unread h.session.events = [])) := by
  refine ⟨fun name t later hf => ?_, fun name s hs => ?_, fun step name hname => ?_, hr.count,
    fun earlier t later name s hsplit hgone hs hlasts => ?_⟩
  · obtain ⟨s, places, hs, hdelivered, hgapless⟩ := hr.served hf
    refine ⟨s, places, hs, hdelivered, ?_, fun hin => ?_⟩
    · rw [← hdelivered.position_eq]
      exact s.unread_eq_rtake _
    · have hgapless := hgapless hin
      have := hgapless.length_told hdelivered
      have := hin.2
      exact hgapless.unread (by omega)
  · have hread := s.receive_eq_read h.session.events
    refine ⟨_, _, rfl, ?_, ?_, ?_, (s.drain h.session.events).2, step_drain hs,
      Subscription.reads_drain s _, ?_⟩
    · rw [← Subscription.receive_fst, hread]
    · rw [step_tryReceive hs, hread]
    · rw [step_receive hs, hread]
    · exact Subscription.unread_eq_nil_iff.2 (Nat.le_max_right ..)
  · obtain ⟨hsession, hlive⟩ := (serves_step h hname).session
    exact ⟨hsession, hlive, fun other hne => (serves_step h hname).find?_ne hne⟩
  · obtain ⟨hlive, hevents, s', hs', hunread⟩ := hr.after_drop hsplit hgone hs hlasts
    rw [hevents]
    refine ⟨s', hs', hunread, ?_, ?_⟩
    · rw [step_receive hs', hevents, Subscription.receive_fst]
      simp [hlive]
    · rintro ⟨x, hx, hstep, hresult⟩
      exact hr.ended hsplit hgone hs hlasts hx hstep hresult hs'

def play (h : Hub) : List Step → List Turn × Hub
  | [] => ([], h)
  | step :: rest => (h.turn step :: ((h.step step).2.play rest).1, ((h.step step).2.play rest).2)

theorem Reached.play (hr : Reached supported turns h) (steps : List Step) :
    Reached supported (turns ++ (h.play steps).1) (h.play steps).2 := by
  induction steps generalizing turns h with
  | nil => simpa [Hub.play] using hr
  | cons step rest ih => simpa [Hub.play] using ih (hr.turn step)

def crowd : List Step :=
  .subscribe "quick" ::
    ((List.range 40).flatMap fun k => [.session (.changeChain (k + 2)), .tryReceive "quick"]) ++
      [.receive "slow", .dropSession, .unsubscribe "quick", .drain "slow", .receive "slow", .receive "slow"]

theorem length_ones : (List.replicate 20 (1 : UInt8)).length = 20 :=
  rfl

def opening : Turn :=
  (start []).turn (.session (.connect ⟨⟨List.replicate 20 1, length_ones⟩, 1⟩))

def joining : Turn :=
  opening.after.turn (.subscribe "slow")

theorem delivers_newest_in_order_crowded :
    let later := (joining.after.play crowd).1
    let h := (joining.after.play crowd).2
    Follows "slow" (opening :: joining :: later) joining later ∧
      h.live = false ∧ h.session.events.length = 41 ∧ h.subscriberCount = 1 ∧
      delivered "slow" later = (List.range 32).map (fun k => .chainChanged (k + 10)) ∧
      ∃ s places, h.find? "slow" = some s ∧
        s.Delivered 1 h.session.events places (delivered "slow" later) ∧
        s.unread h.session.events = (h.session.events.drop (places.getLast?.elim 1 (· + 1))).rtake 32 := by
  intro later h
  have hreached : Reached [] (opening :: joining :: later) h :=
    ((Reached.start.turn _).turn _).play crowd
  have hfollows : Follows "slow" (opening :: joining :: later) joining later :=
    ⟨⟨[opening], rfl⟩, ⟨rfl, by decide +kernel⟩, by decide +kernel⟩
  obtain ⟨s, places, hs, hdelivered, hunread, -⟩ :=
    (delivers_newest_in_order hreached).1 "slow" joining later hfollows
  exact ⟨hfollows, by decide +kernel, by decide +kernel, by decide +kernel, by decide +kernel, s, places,
    hs, hdelivered, hunread⟩

end TokenBridge.Wallet.Hub
