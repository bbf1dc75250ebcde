namespace TokenBridge

inductive Dialogue (Query : Type) (Answer : Query → Type) (α : Type) where
  | done (result : α)
  | ask (query : Query) (next : Answer query → Dialogue Query Answer α)

abbrev Exchange (Query : Type) (Answer : Query → Type) : Type :=
  (query : Query) × Answer query

namespace Dialogue

variable {Query : Type} {Answer : Query → Type} {α β : Type}

def bind : Dialogue Query Answer α → (α → Dialogue Query Answer β) → Dialogue Query Answer β
  | .done result, f => f result
  | .ask query next, f => .ask query fun a => bind (next a) f

instance : Monad (Dialogue Query Answer) where
  pure := .done
  bind := bind

@[simp] theorem pure_eq_done (result : α) :
    (pure result : Dialogue Query Answer α) = .done result := rfl

@[simp] theorem done_bind (result : α) (f : α → Dialogue Query Answer β) :
    ((Dialogue.done result : Dialogue Query Answer α) >>= f) = f result := rfl

@[simp] theorem ask_bind (query : Query) (next : Answer query → Dialogue Query Answer α)
    (f : α → Dialogue Query Answer β) :
    ((Dialogue.ask query next) >>= f) = .ask query fun a => next a >>= f := rfl

theorem bind_assoc {γ : Type} (d : Dialogue Query Answer α) (f : α → Dialogue Query Answer β)
    (g : β → Dialogue Query Answer γ) : ((d >>= f) >>= g) = (d >>= fun a => f a >>= g) := by
  induction d with
  | done result => rfl
  | ask query next ih =>
    rw [ask_bind, ask_bind, ask_bind]
    exact congrArg _ (funext ih)

def answered (answer : (query : Query) → Answer query) :
    Dialogue Query Answer α → List (Exchange Query Answer) × α
  | .done result => ([], result)
  | .ask query next =>
    let run := answered answer (next (answer query))
    (⟨query, answer query⟩ :: run.1, run.2)

def run {m : Type → Type} [Monad m] (answer : (query : Query) → m (Answer query)) :
    Dialogue Query Answer α → m α
  | .done result => pure result
  | .ask query next => do
    let a ← answer query
    run answer (next a)

def relay {Query' : Type} {Answer' : Query' → Type}
    (ask' : (query : Query) → Dialogue Query' Answer' (Answer query)) :
    Dialogue Query Answer α → Dialogue Query' Answer' α :=
  run ask'

/-- The runs of a dialogue, over all answers that others may give. -/
inductive Runs : Dialogue Query Answer α → List (Exchange Query Answer) → α → Prop
  | done (result : α) : Runs (.done result) [] result
  | ask {query : Query} {next : Answer query → Dialogue Query Answer α} {answer : Answer query}
      {exchanges : List (Exchange Query Answer)} {result : α} :
      Runs (next answer) exchanges result →
        Runs (.ask query next) (⟨query, answer⟩ :: exchanges) result

theorem runs_answered (answer : (query : Query) → Answer query) (d : Dialogue Query Answer α) :
    Runs d (d.answered answer).1 (d.answered answer).2 := by
  induction d with
  | done result => exact .done result
  | ask query next ih => exact .ask (ih (answer query))

end Dialogue
end TokenBridge
