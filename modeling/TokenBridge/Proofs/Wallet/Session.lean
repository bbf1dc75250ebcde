import TokenBridge.Wallet.Session

namespace TokenBridge.Wallet

def Event.Agrees : Event → Option Connection → Prop
  | .connected c, now => now = some c
  | .accountChanged account, now => now.map (·.account) = some account
  | .chainChanged chain, now => now.map (·.chain) = some chain
  | .disconnected, now => now = none

inductive Event.Tells : Event → Option Connection → Option Connection → Prop
  | connected (before : Option Connection) (c : Connection) : Tells (.connected c) before (some c)
  | accountChanged {c : Connection} {account : Address} :
      c.account ≠ account →
      Tells (.accountChanged account) (some c) (some { c with account := account })
  | chainChanged {c : Connection} {chain : Nat} :
      c.chain ≠ chain → Tells (.chainChanged chain) (some c) (some { c with chain := chain })
  | disconnected (c : Connection) : Tells .disconnected (some c) none

variable {e : Event} {before now : Option Connection}

theorem Event.Tells.agrees (h : e.Tells before now) : e.Agrees now := by
  cases h <;> rfl

theorem Event.Tells.apply_eq (h : e.Tells before now) : e.apply before = now := by
  cases h <;> rfl

theorem State.eq_connected {state : State} {c : Connection} (h : state.connection? = some c) :
    state = .connected c := by
  cases state with
  | connected c' =>
    cases h
    rfl
  | disconnected => cases h
  | failed e => cases h

namespace Session

inductive Leads (s s' : Session) : Prop
  | silently : s'.events = s.events → s'.state.connection? = s.state.connection? → Leads s s'
  | telling (e : Event) :
      s'.events = s.events ++ [e] → e.Tells s.state.connection? s'.state.connection? → Leads s s'

theorem leads_lose (s : Session) {state : State} (hstate : state.connection? = none) :
    Leads s (if s.isConnected then { s with state := state }.emit .disconnected
      else { s with state := state }) := by
  split
  · next h =>
    obtain ⟨c, hc⟩ := Option.isSome_iff_exists.1 h
    refine .telling .disconnected rfl ?_
    rw [hc]
    exact hstate ▸ .disconnected c
  · next h =>
    have hnone : s.state.connection? = none := by simpa [isConnected] using h
    exact .silently rfl (hstate.trans hnone.symm)

theorem leads_fail (s : Session) (e : ConnectError) : Leads s (s.fail e) :=
  leads_lose s rfl

theorem leads_disconnect (s : Session) : Leads s s.disconnect :=
  leads_lose s rfl

theorem leads_connect (s : Session) (c : Connection) : Leads s (s.connect c).2 := by
  rw [connect]
  split
  · exact .telling (.connected c) rfl (.connected _ c)
  · exact leads_fail s _

theorem leads_changeAccount (s : Session) (account : Address) :
    Leads s (s.changeAccount account) := by
  rw [changeAccount]
  split
  · next hstate =>
    split
    · exact .silently rfl rfl
    · next hne =>
      refine .telling (.accountChanged account) rfl ?_
      rw [hstate]
      exact .accountChanged hne
  · exact .silently rfl rfl

theorem leads_changeChain (s : Session) (chain : Nat) : Leads s (s.changeChain chain).2 := by
  rw [changeChain]
  split
  · split
    · next hstate =>
      split
      · exact .silently rfl rfl
      · next hne =>
        refine .telling (.chainChanged chain) rfl ?_
        rw [hstate]
        exact .chainChanged hne
    · exact .silently rfl rfl
  · exact leads_fail s _

theorem leads_step (s : Session) (step : Step) : Leads s (s.step step).2 := by
  cases step with
  | connect c => exact leads_connect s c
  | changeAccount account => exact leads_changeAccount s account
  | changeChain chain => exact leads_changeChain s chain
  | disconnect => exact leads_disconnect s
  | fail e => exact leads_fail s e

variable {s : Session}

theorem account_of_connected {c : Connection}
    (h : (Event.connected c).Agrees s.state.connection?) : s.account? = some c.account := by
  rw [account?, h]
  rfl

theorem account_of_chainChanged {chain : Nat}
    (h : (Event.chainChanged chain).Agrees s.state.connection?) : s.account? ≠ none := by
  rw [account?]
  cases hc : s.state.connection? with
  | none =>
    rw [hc] at h
    cases h
  | some c => simp

theorem account_of_disconnected (h : Event.disconnected.Agrees s.state.connection?) :
    s.account? = none := by
  rw [account?, h]
  rfl

end Session
end TokenBridge.Wallet
