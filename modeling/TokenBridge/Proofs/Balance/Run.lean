import TokenBridge.Balance.Tracker

namespace TokenBridge.Balance

abbrev Fetched := Address × Except NetworkError Word

namespace Run

def start (scene : Scene) (interval : Nat) : Run :=
  ⟨scene, .start scene interval, []⟩

def completes (r : Run) : Move → List Fetched
  | .answer result =>
    match r.tracker.activity with
    | .fetching account => [(account, result)]
    | _ => []
  | _ => []

/-- The runs from a beginning, each with the fetches completed in it, the latest last. -/
inductive Reached (first : Run) : List Fetched → Run → Prop
  | start : Reached first [] first
  | move {fetched : List Fetched} {r r' : Run} {m : Move} :
      Reached first fetched r → r.next? m = some r' → Reached first (fetched ++ r.completes m) r'

/-- Nothing is pending and nothing is left to do: no fetch, no unread event, no tick that is due. -/
def Idle (r : Run) : Prop :=
  r.tracker.activity = .waiting ∧ r.tracker.subscription.unread r.scene.session.events = [] ∧
    r.tracker.ticker.isDue r.scene.now = false

def play : Run → List Fetched → List Move → Option (List Fetched × Run)
  | r, fetched, [] => some (fetched, r)
  | r, fetched, m :: moves =>
    match r.next? m with
    | some r' => play r' (fetched ++ r.completes m) moves
    | none => none

theorem Reached.play {first r r' : Run} {fetched fetched' : List Fetched} {moves : List Move}
    (hr : Reached first fetched r) (hp : Run.play r fetched moves = some (fetched', r')) :
    Reached first fetched' r' := by
  induction moves generalizing r fetched with
  | nil =>
    cases hp
    exact hr
  | cons m moves ih =>
    rw [Run.play] at hp
    split at hp
    · next hm => exact ih (hr.move hm) hp
    · cases hp

end Run
end TokenBridge.Balance
