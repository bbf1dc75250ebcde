import TokenBridge.Balance.Ticker
import TokenBridge.Balance.View
import TokenBridge.Wallet.Subscription

namespace TokenBridge.Balance

open Wallet (Session Subscription Event)

structure Scene where
  session : Session
  view : View
  now : Nat
  deriving DecidableEq, Repr

inductive Activity
  | waiting
  | fetching (account : Address)
  | finished
  deriving DecidableEq, Repr

structure Tracker where
  subscription : Subscription
  ticker : Ticker
  activity : Activity
  stopping : Bool
  deriving DecidableEq, Repr

inductive Act
  | tick (time : Nat)
  | handle (event : Event)
  | fetch (account : Address)
  | publish (view : View)
  deriving DecidableEq, Repr

def Act.account? : Act → Option Address
  | .fetch account => some account
  | _ => none

def Act.isPublish : Act → Bool
  | .publish _ => true
  | _ => false

namespace Tracker

def start (scene : Scene) (interval : Nat) : Tracker :=
  ⟨.begin scene.session.events, .start interval scene.now, .waiting, false⟩

def isRunning (t : Tracker) : Bool :=
  t.activity ≠ .finished

end Tracker

structure Run where
  scene : Scene
  tracker : Tracker
  journal : List Act
  deriving DecidableEq, Repr

inductive Move
  | wallet (step : Session.Step)
  | elapse (ms : Nat)
  | stop
  | shutDown
  | receive
  | tick
  | answer (result : Except NetworkError Word)

namespace Run

def record (r : Run) (act : Act) : Run :=
  { r with journal := r.journal ++ [act] }

def publish (r : Run) (view : View) : Run :=
  { r with scene := { r.scene with view := view } }.record (.publish view)

def become (r : Run) (activity : Activity) : Run :=
  { r with tracker := { r.tracker with activity := activity } }

def fetch (r : Run) (account : Address) : Run :=
  (r.become (.fetching account)).record (.fetch account)

def fetchConnected (r : Run) : Run :=
  match r.scene.session.account? with
  | some account => r.fetch account
  | none => r

def handle (r : Run) : Event → Run
  | .connected c => r.fetch c.account
  | .accountChanged account => r.fetch account
  | .chainChanged _ => r.fetchConnected
  | .disconnected => r.publish .unknown

def receive? (r : Run) : Option Run :=
  match r.tracker.subscription.receive r.scene.session.events with
  | (none, _) => none
  | (some event, subscription) =>
    let r := { r with tracker := { r.tracker with subscription := subscription } }
    some ((r.record (.handle event)).handle event)

def tick? (r : Run) : Option Run :=
  if r.tracker.ticker.isDue r.scene.now then
    let r := { r with tracker := { r.tracker with ticker := r.tracker.ticker.take r.scene.now } }
    some (r.record (.tick r.scene.now)).fetchConnected
  else none

def answer? (r : Run) (result : Except NetworkError Word) : Option Run :=
  match r.tracker.activity with
  | .fetching _ => some ((r.publish (.ofAnswer result)).become .waiting)
  | _ => none

def ifWaiting (r : Run) (next : Option Run) : Option Run :=
  if r.tracker.activity = .waiting then next else none

def next? (r : Run) : Move → Option Run
  | .wallet step => some { r with scene := { r.scene with session := (r.scene.session.step step).2 } }
  | .elapse ms => some { r with scene := { r.scene with now := r.scene.now + ms } }
  | .stop => some { r with tracker := { r.tracker with stopping := true } }
  | .shutDown => r.ifWaiting (if r.tracker.stopping then some (r.become .finished) else none)
  | .receive => r.ifWaiting r.receive?
  | .tick => r.ifWaiting r.tick?
  | .answer result => r.answer? result

def advance? (source : Address → Except NetworkError Word) (held : Bool) (r : Run) : Option Run :=
  match r.tracker.activity with
  | .fetching account => if held then none else r.next? (.answer (source account))
  | .waiting => (r.next? .shutDown).or ((r.next? .receive).or (r.next? .tick))
  | .finished => none

def settleWithin (source : Address → Except NetworkError Word) (held : Bool) : Nat → Run → Run
  | 0, r => r
  | fuel + 1, r =>
    match r.advance? source held with
    | some r => settleWithin source held fuel r
    | none => r

def moves (r : Run) : Nat :=
  2 * (r.tracker.subscription.unread r.scene.session.events).length + 4

def settle (source : Address → Except NetworkError Word) (held : Bool) (r : Run) : Run :=
  settleWithin source held r.moves r

end Run
end TokenBridge.Balance
