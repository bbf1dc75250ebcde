import TokenBridge.Balance.Tracker

namespace TokenBridge.Balance

open Wallet (Session)

abbrev Answer := Except NetworkError Word

structure Monitor where
  scene : Scene
  trackers : List Tracker
  answers : List (Address × Answer)
  held : Bool

namespace Monitor

inductive Step
  | set (account : Address) (answer : Answer)
  | start (interval : Nat)
  | stop
  | hold
  | release
  | elapse (ms : Nat)
  | refresh (account : Address)
  | clear
  | wallet (step : Session.Step)

inductive Result
  | none
  | answer (answer : Answer)
  | wallet (result : Session.Result)

def new (supported : List Nat) : Monitor :=
  ⟨⟨.new supported, .unknown, 0⟩, [], [], false⟩

def source (m : Monitor) (account : Address) : Answer :=
  (m.answers.lookup account).getD (.error (.contractCall "execution reverted"))

def settleAll (source : Address → Answer) (held : Bool) :
    Scene → List Tracker → Scene × List Tracker × List Act
  | scene, [] => (scene, [], [])
  | scene, t :: rest =>
    let run := Run.settle source held ⟨scene, t, []⟩
    let (scene, trackers, journal) := settleAll source held run.scene rest
    (scene, run.tracker :: trackers, run.journal ++ journal)

def settle (m : Monitor) : Monitor × List Act :=
  let (scene, trackers, journal) := settleAll m.source m.held m.scene m.trackers
  ({ m with scene, trackers }, journal)

def stopAll (m : Monitor) : Monitor :=
  { m with trackers := m.trackers.map fun t => { t with stopping := true } }

def act (m : Monitor) : Step → Result × Monitor × List Act
  | .set account answer =>
    (.none, { m with answers := (account, answer) :: m.answers }, [])
  | .start interval =>
    let m := m.stopAll
    (.none, { m with trackers := m.trackers ++ [.start m.scene interval] }, [])
  | .stop => (.none, m.stopAll, [])
  | .hold => (.none, { m with held := true }, [])
  | .release => (.none, { m with held := false }, [])
  | .elapse ms => (.none, { m with scene := { m.scene with now := m.scene.now + ms } }, [])
  | .refresh account =>
    let answer := m.source account
    let view := View.ofAnswer answer
    (.answer answer, { m with scene := { m.scene with view } }, [.fetch account, .publish view])
  | .clear => (.none, { m with scene := { m.scene with view := .unknown } }, [.publish .unknown])
  | .wallet step =>
    let (result, session) := m.scene.session.step step
    (.wallet result, { m with scene := { m.scene with session } }, [])

def step (m : Monitor) (s : Step) : Result × Monitor × List Act :=
  let (result, m, done) := m.act s
  let (m, journal) := m.settle
  (result, m, done ++ journal)

def isRunning (m : Monitor) : Bool :=
  m.trackers.getLast?.any Tracker.isRunning

def subscriberCount (m : Monitor) : Nat :=
  (m.trackers.filter Tracker.isRunning).length

end Monitor
end TokenBridge.Balance
