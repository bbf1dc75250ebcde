import TokenBridge.Proofs.Wallet.Replay

namespace TokenBridge.Wallet

/-- A list of chains accepts those in it, and an empty list every chain. -/
def Accepts (supported : List Nat) (chain : Nat) : Prop :=
  supported = [] ∨ chain ∈ supported

def Event.chain? : Event → Option Nat
  | .connected c => some c.chain
  | .chainChanged chain => some chain
  | .accountChanged _ => none
  | .disconnected => none

namespace Session

variable {s : Session} {supported : List Nat} {chain : Nat} {state : State} {e : Event}

theorem supports_iff : s.supports chain ↔ Accepts s.supported chain := by
  simp [supports, Accepts]

theorem isConnected_iff : s.isConnected ↔ ∃ c, s.state = .connected c := by
  rw [isConnected, Option.isSome_iff_exists]
  exact exists_congr fun c => ⟨State.eq_connected, fun h => by rw [h]; rfl⟩

theorem state_fail (s : Session) (error : ConnectError) : (s.fail error).state = .failed error := by
  rw [fail]
  split <;> rfl

theorem events_fail_of_connected (error : ConnectError) (h : ∃ c, s.state = .connected c) :
    (s.fail error).events = s.events ++ [.disconnected] := by
  rw [fail, if_pos (isConnected_iff.2 h)]
  rfl

theorem events_fail_of_not_connected (error : ConnectError) (h : ¬ ∃ c, s.state = .connected c) :
    (s.fail error).events = s.events := by
  rw [fail, if_neg (mt isConnected_iff.1 h)]

theorem step_connect_of_accepts {c : Connection} (h : Accepts s.supported c.chain) :
    s.step (.connect c) = (.outcome (.ok ()), { s with state := .connected c }.emit (.connected c)) := by
  rw [step, connect, if_pos (supports_iff.2 h)]

theorem step_connect_of_not_accepts {c : Connection} (h : ¬ Accepts s.supported c.chain) :
    s.step (.connect c) =
      (.outcome (.error (.unsupportedChain c.chain)), s.fail (.unsupportedChain c.chain)) := by
  rw [step, connect, if_neg (mt supports_iff.1 h)]

theorem step_changeChain_of_connected {c : Connection} (h : Accepts s.supported chain)
    (hstate : s.state = .connected c) :
    s.step (.changeChain chain) =
      (.outcome (.ok ()), if c.chain = chain then s
        else { s with state := .connected { c with chain := chain } }.emit (.chainChanged chain)) := by
  rw [step, changeChain, if_pos (supports_iff.2 h), hstate]
  dsimp only
  split <;> rfl

theorem step_changeChain_of_not_connected (h : Accepts s.supported chain)
    (hstate : ¬ ∃ c, s.state = .connected c) : s.step (.changeChain chain) = (.outcome (.ok ()), s) := by
  rw [step, changeChain, if_pos (supports_iff.2 h)]
  cases hs : s.state with
  | connected c => exact absurd ⟨c, hs⟩ hstate
  | disconnected => rfl
  | failed error => rfl

theorem step_changeChain_of_not_accepts (h : ¬ Accepts s.supported chain) :
    s.step (.changeChain chain) =
      (.outcome (.error (.unsupportedChain chain)), s.fail (.unsupportedChain chain)) := by
  rw [step, changeChain, if_neg (mt supports_iff.1 h)]

/-- A step was refused on account of its chain: it failed, and a connection that there was is lost. -/
structure Refused (s : Session) (chain : Nat) (r : Result × Session) : Prop where
  answer : r.1 = .outcome (.error (.unsupportedChain chain))
  failed : r.2.state = .failed (.unsupportedChain chain)
  lost : (∃ c, s.state = .connected c) → r.2.events = s.events ++ [.disconnected]
  silent : (¬ ∃ c, s.state = .connected c) → r.2.events = s.events

theorem refused_fail (s : Session) (chain : Nat) :
    Refused s chain (.outcome (.error (.unsupportedChain chain)), s.fail (.unsupportedChain chain)) where
  answer := rfl
  failed := state_fail s _
  lost := events_fail_of_connected _
  silent := events_fail_of_not_connected _

structure Confined (supported : List Nat) (s : Session) : Prop where
  supported_eq : s.supported = supported
  connection : ∀ c, s.state = .connected c → Accepts supported c.chain
  told : ∀ e ∈ s.events, ∀ chain, e.chain? = some chain → Accepts supported chain

theorem confined_new (supported : List Nat) : Confined supported (new supported) where
  supported_eq := rfl
  connection c h := by cases h
  told e he := by cases he

namespace Confined

variable (h : Confined supported s)
include h

theorem enter {c : Connection} (hc : Accepts supported c.chain)
    (he : ∀ chain, e.chain? = some chain → chain = c.chain) :
    Confined supported ({ s with state := .connected c }.emit e) where
  supported_eq := h.supported_eq
  connection := by
    rintro _ ⟨⟩
    exact hc
  told := by
    refine List.forall_mem_append.2 ⟨h.told, List.forall_mem_singleton.2 fun chain hchain => ?_⟩
    rw [he chain hchain]
    exact hc

theorem lose (hstate : ∀ c, state ≠ .connected c) :
    Confined supported (if s.isConnected then { s with state := state }.emit .disconnected
      else { s with state := state }) := by
  have hgone : Confined supported { s with state := state } :=
    ⟨h.supported_eq, fun c hc => absurd hc (hstate c), h.told⟩
  split
  · refine ⟨hgone.supported_eq, hgone.connection, ?_⟩
    exact List.forall_mem_append.2 ⟨h.told, List.forall_mem_singleton.2 (by rintro chain ⟨⟩)⟩
  · exact hgone

theorem fail (error : ConnectError) : Confined supported (s.fail error) :=
  h.lose (by rintro c ⟨⟩)

theorem disconnect : Confined supported s.disconnect :=
  h.lose (by rintro c ⟨⟩)

theorem connect (c : Connection) : Confined supported (s.step (.connect c)).2 := by
  by_cases haccepts : Accepts s.supported c.chain
  · rw [step_connect_of_accepts haccepts]
    exact h.enter (h.supported_eq ▸ haccepts) (by rintro chain ⟨⟩; rfl)
  · rw [step_connect_of_not_accepts haccepts]
    exact h.fail _

theorem changeAccount (account : Address) : Confined supported (s.changeAccount account) := by
  rw [Session.changeAccount]
  split
  · next c hstate =>
    split
    · exact h
    · exact h.enter (h.connection c hstate) (by rintro chain ⟨⟩)
  · exact h

theorem changeChain (chain : Nat) : Confined supported (s.step (.changeChain chain)).2 := by
  by_cases haccepts : Accepts s.supported chain
  · by_cases hconnected : ∃ c, s.state = .connected c
    · obtain ⟨c, hstate⟩ := hconnected
      rw [step_changeChain_of_connected haccepts hstate]
      dsimp only
      split
      · exact h
      · exact h.enter (h.supported_eq ▸ haccepts) (by rintro _ ⟨⟩; rfl)
    · rw [step_changeChain_of_not_connected haccepts hconnected]
      exact h
  · rw [step_changeChain_of_not_accepts haccepts]
    exact h.fail _

theorem step (step : Step) : Confined supported (s.step step).2 := by
  cases step with
  | connect c => exact h.connect c
  | changeAccount account => exact h.changeAccount account
  | changeChain chain => exact h.changeChain chain
  | disconnect => exact h.disconnect
  | fail error => exact h.fail error

theorem run (steps : List Step) : Confined supported (s.run steps) := by
  induction steps generalizing s with
  | nil => exact h
  | cons step steps ih => exact ih (h.step step)

end Confined

theorem connected_on_accepted_chain (supported : List Nat) :
    (∀ steps, let s := (new supported).run steps
      s.supported = supported ∧ (∀ c, s.state = .connected c → Accepts supported c.chain) ∧
        ∀ e ∈ s.events, ∀ chain, e.chain? = some chain → Accepts supported chain) ∧
      ∀ s : Session, s.supported = supported →
        (∀ c : Connection, ¬ Accepts supported c.chain → Refused s c.chain (s.step (.connect c))) ∧
        (∀ chain, ¬ Accepts supported chain → Refused s chain (s.step (.changeChain chain))) ∧
        (∀ c : Connection, Accepts supported c.chain →
          (s.step (.connect c)).1 = .outcome (.ok ()) ∧ (s.step (.connect c)).2.state = .connected c) ∧
        ∀ chain, Accepts supported chain →
          (s.step (.changeChain chain)).1 = .outcome (.ok ()) ∧
            (∀ c, s.state = .connected c →
              (s.step (.changeChain chain)).2.state = .connected { c with chain := chain }) ∧
            ((¬ ∃ c, s.state = .connected c) → (s.step (.changeChain chain)).2 = s) := by
  refine ⟨fun steps => ?_, ?_⟩
  · have hconfined := (confined_new supported).run steps
    exact ⟨hconfined.supported_eq, hconfined.connection, hconfined.told⟩
  rintro s rfl
  refine ⟨?_, ?_, ?_, ?_⟩
  · intro c hc
    rw [step_connect_of_not_accepts hc]
    exact refused_fail s c.chain
  · intro chain hchain
    rw [step_changeChain_of_not_accepts hchain]
    exact refused_fail s chain
  · intro c hc
    rw [step_connect_of_accepts hc]
    exact ⟨rfl, rfl⟩
  · intro chain hchain
    by_cases hconnected : ∃ c, s.state = .connected c
    · refine ⟨?_, fun c hstate => ?_, fun hnot => absurd hconnected hnot⟩
      · obtain ⟨c, hstate⟩ := hconnected
        rw [step_changeChain_of_connected hchain hstate]
      · rw [step_changeChain_of_connected hchain hstate]
        dsimp only
        split
        · next hsame => rw [hstate, ← hsame]
        · rfl
    · rw [step_changeChain_of_not_connected hchain hconnected]
      exact ⟨rfl, fun c hstate => absurd ⟨c, hstate⟩ hconnected, fun _ => rfl⟩

theorem connected_on_accepted_chain_refused :
    let s := (new [56]).run [.connect ⟨Address.zero, 56⟩, .fail .userRejected, .connect ⟨Address.zero, 56⟩]
    ¬ Accepts [56] 97 ∧ Accepts [56] 56 ∧ (∃ c, s.state = .connected c) ∧
      (s.step (.changeChain 97)).2.state = .failed (.unsupportedChain 97) ∧
      (s.step (.changeChain 97)).2.events =
        [.connected ⟨Address.zero, 56⟩, .disconnected, .connected ⟨Address.zero, 56⟩, .disconnected] ∧
      ∀ c, s.state = .connected c → Accepts [56] c.chain := by
  intro s
  have hconnected : s.state = .connected ⟨Address.zero, 56⟩ := rfl
  have hrefused : ¬ Accepts [56] 97 := by simp [Accepts]
  obtain ⟨hreached, hsteps⟩ := connected_on_accepted_chain [56]
  have hr := (hsteps s rfl).2.1 97 hrefused
  exact ⟨hrefused, .inr (List.mem_singleton_self 56), ⟨_, hconnected⟩, hr.failed, hr.lost ⟨_, hconnected⟩,
    (hreached _).2.1⟩

end Session
end TokenBridge.Wallet
