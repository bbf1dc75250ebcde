import TokenBridge.Wallet.Subscription

namespace TokenBridge.Wallet

structure Hub where
  session : Session
  live : Bool
  subscriptions : List (String × Subscription)
  deriving DecidableEq, Repr

namespace Hub

def start (supported : List Nat) : Hub :=
  ⟨.new supported, true, []⟩

def find? (h : Hub) (name : String) : Option Subscription :=
  h.subscriptions.lookup name

def drop (h : Hub) (name : String) : Hub :=
  { h with subscriptions := h.subscriptions.filter (·.1 ≠ name) }

def put (h : Hub) (name : String) (s : Subscription) : Hub :=
  { h with subscriptions := (h.drop name).subscriptions ++ [(name, s)] }

inductive Step
  | session (step : Session.Step)
  | subscribe (name : String)
  | unsubscribe (name : String)
  | tryReceive (name : String)
  | drain (name : String)
  | receive (name : String)
  | dropSession
  deriving DecidableEq, Repr

inductive Result
  | none
  | session (result : Session.Result)
  | event (event : Option Event)
  | events (events : List Event)
  | pending
  | received (event : Option Event)
  | noSession
  | noSubscription

def step (h : Hub) : Step → Result × Hub
  | .session s =>
    if h.live then
      let (result, session) := h.session.step s
      (.session result, { h with session := session })
    else (.noSession, h)
  | .subscribe name =>
    if h.live then (.none, h.put name (.begin h.session.events)) else (.noSession, h)
  | .unsubscribe name =>
    match h.find? name with
    | some _ => (.none, h.drop name)
    | none => (.noSubscription, h)
  | .tryReceive name =>
    match h.find? name with
    | some s =>
      let (event, s) := s.receive h.session.events
      (.event event, h.put name s)
    | none => (.noSubscription, h)
  | .drain name =>
    match h.find? name with
    | some s =>
      let (events, s) := s.drain h.session.events
      (.events events, h.put name s)
    | none => (.noSubscription, h)
  | .receive name =>
    match h.find? name with
    | some s =>
      match s.receive h.session.events with
      | (some event, s) => (.received (some event), h.put name s)
      | (none, s) => (if h.live then .pending else .received none, h.put name s)
    | none => (.noSubscription, h)
  | .dropSession => if h.live then (.none, { h with live := false }) else (.noSession, h)

def subscriberCount (h : Hub) : Nat :=
  h.subscriptions.length

end Hub
end TokenBridge.Wallet
