import TokenBridge.Wallet.Session

namespace TokenBridge.Wallet

def bufferSize : Nat := 32

structure Subscription where
  position : Nat
  deriving DecidableEq, Repr

namespace Subscription

def begin (events : List Event) : Subscription :=
  ⟨events.length⟩

def next (s : Subscription) (events : List Event) : Nat :=
  max s.position (events.length - bufferSize)

def unread (s : Subscription) (events : List Event) : List Event :=
  events.drop (s.next events)

def receive (s : Subscription) (events : List Event) : Option Event × Subscription :=
  match s.unread events with
  | [] => (none, s)
  | e :: _ => (some e, ⟨s.next events + 1⟩)

def drain (s : Subscription) (events : List Event) : List Event × Subscription :=
  (s.unread events, ⟨max s.position events.length⟩)

end Subscription
end TokenBridge.Wallet
