import TokenBridge.Proofs.Wallet.Session

namespace TokenBridge.Wallet

/-- The connection that some events lead to. -/
def Event.replay (events : List Event) (c : Option Connection) : Option Connection :=
  events.foldl (fun c e => e.apply c) c

theorem Event.replay_append (first second : List Event) (c : Option Connection) :
    replay (first ++ second) c = replay second (replay first c) :=
  List.foldl_append

namespace Session

def run (s : Session) : List Step → Session
  | [] => s
  | step :: steps => run (s.step step).2 steps

variable {s s' : Session}

/-- The events that have something to tell in a state: all but a new connection need one that they change. -/
def MayEmit (s : Session) : Event → Prop
  | .connected _ => True
  | .accountChanged account => ∃ c, s.state = .connected c ∧ c.account ≠ account
  | .chainChanged chain => ∃ c, s.state = .connected c ∧ c.chain ≠ chain
  | .disconnected => ∃ c, s.state = .connected c

theorem mayEmit_of_tells {e : Event} {now : Option Connection}
    (h : e.Tells s.state.connection? now) : s.MayEmit e := by
  generalize hbefore : s.state.connection? = before at h
  cases h with
  | connected c => trivial
  | accountChanged hne => exact ⟨_, State.eq_connected hbefore, hne⟩
  | chainChanged hne => exact ⟨_, State.eq_connected hbefore, hne⟩
  | disconnected c => exact ⟨c, State.eq_connected hbefore⟩

theorem Leads.replay (h : Leads s s') :
    ∃ emitted, s'.events = s.events ++ emitted ∧
      Event.replay emitted s.state.connection? = s'.state.connection? := by
  cases h with
  | silently hevents hconnection => exact ⟨[], by simpa using hevents, hconnection.symm⟩
  | telling e hevents htells => exact ⟨[e], hevents, htells.apply_eq⟩

theorem replay_run (s : Session) (steps : List Step) :
    ∃ emitted, (s.run steps).events = s.events ++ emitted ∧
      Event.replay emitted s.state.connection? = (s.run steps).state.connection? := by
  induction steps generalizing s with
  | nil => exact ⟨[], by simp [run], rfl⟩
  | cons step steps ih =>
    obtain ⟨first, hfirst, hstep⟩ := (leads_step s step).replay
    obtain ⟨rest, hrest, hrun⟩ := ih (s.step step).2
    refine ⟨first ++ rest, ?_, ?_⟩
    · rw [run, hrest, hfirst, List.append_assoc]
    · rw [run, Event.replay_append, hstep, hrun]

theorem events_replay_to_connection (s : Session) :
    (∀ steps, ∃ emitted, (s.run steps).events = s.events ++ emitted ∧
        Event.replay emitted s.state.connection? = (s.run steps).state.connection?) ∧
      ∀ step, ∃ emitted : Option Event,
        (s.step step).2.events = s.events ++ emitted.toList ∧
          (∀ e, emitted = some e → s.MayEmit e) ∧
          (emitted = none → (s.step step).2.state.connection? = s.state.connection?) := by
  refine ⟨replay_run s, fun step => ?_⟩
  cases leads_step s step with
  | silently hevents hconnection =>
    exact ⟨none, by simpa using hevents, by simp, fun _ => hconnection⟩
  | telling e hevents htells =>
    refine ⟨some e, hevents, ?_, by simp⟩
    rintro _ ⟨⟩
    exact mayEmit_of_tells htells

example :
    ((new [56]).run [.connect ⟨Address.zero, 56⟩, .changeChain 56, .changeChain 1, .disconnect]).events =
      [.connected ⟨Address.zero, 56⟩, .disconnected] := by
  decide +kernel

end Session
end TokenBridge.Wallet
