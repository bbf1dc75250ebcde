import TokenBridge.Proofs.Withdrawal.DestinationField

namespace TokenBridge.Withdrawal

open Stellar (Asset AddressError Destination.ofString)
open Dialogue (Runs runs_bind_done_iff)

inductive Side
  | destination
  | amount
  deriving DecidableEq, Repr

def Step.side? : Step → Option Side
  | .editDestination _ | .beginCheck | .runCheck _ | .applyOutcome _ | .validateDestination =>
    some .destination
  | .setBalance _ | .editAmount _ | .validateAmount => some .amount
  | .reset | .request | .submit | .validateAndSubmit => none

def Step.isOn (side : Side) (step : Step) : Bool :=
  step.side? = some side

namespace Form

def withAmountOf (f g : Form) : Form :=
  { f with
    balance := g.balance
    amountInput := g.amountInput
    amount := g.amount
    amountEdited := g.amountEdited }

variable (f g : Form)

theorem beginCheck_withAmountOf :
    (f.withAmountOf g).beginCheck = (f.beginCheck.1, f.beginCheck.2.withAmountOf g) := by
  unfold beginCheck
  cases ha : Destination.ofString f.destinationInput with
  | error e => simp [withAmountOf, ha]
  | ok address => simp [withAmountOf, ha]

theorem applyOutcome_withAmountOf (o : Outcome) :
    (f.withAmountOf g).applyOutcome o = ((f.applyOutcome o).1, (f.applyOutcome o).2.withAmountOf g) := by
  unfold applyOutcome
  by_cases hg : o.generation = f.generation
  · simp [withAmountOf, hg]
  · simp [withAmountOf, hg]

theorem validateDestination_withAmountOf :
    (f.withAmountOf g).validateDestination =
      f.validateDestination >>= fun p => .done (p.1, p.2.withAmountOf g) := by
  unfold validateDestination
  rw [beginCheck_withAmountOf]
  rcases f.beginCheck with ⟨e | check, form⟩
  · rfl
  · simp only [applyOutcome_withAmountOf, Dialogue.bind_assoc, Dialogue.pure_eq_done, Dialogue.done_bind]

theorem setBalance_withAmountOf (raw : Word) :
    (f.withAmountOf g).setBalance raw = f.withAmountOf (g.setBalance raw) :=
  rfl

theorem editAmount_withAmountOf (input : String) :
    (f.withAmountOf g).editAmount input = f.withAmountOf (g.editAmount input) :=
  rfl

theorem validateAmount_withAmountOf :
    (f.withAmountOf g).validateAmount = (g.validateAmount.1, f.withAmountOf g.validateAmount.2) := by
  simp only [validateAmount, withAmountOf, available]

end Form

namespace History

def withAmountOf (h g : History) : History :=
  { h with form := h.form.withAmountOf g.form }

theorem withAmountOf_self (h : History) : h.withAmountOf h = h :=
  rfl

theorem step_destination {step : Step} (hside : step.side? = some .destination) (h g : History) :
    (h.withAmountOf g).step step = h.step step >>= fun p => .done (p.1, p.2.withAmountOf g) := by
  cases step with
  | editDestination input => rfl
  | validateDestination =>
    simp only [History.step, withAmountOf, Form.validateDestination_withAmountOf, Dialogue.pure_eq_done,
      Dialogue.done_bind, Dialogue.bind_assoc]
  | beginCheck =>
    simp only [History.step, withAmountOf, Form.beginCheck_withAmountOf]
    rcases h.form.beginCheck with ⟨e | check, form⟩ <;> rfl
  | runCheck n =>
    simp only [History.step, withAmountOf]
    cases h.checks[n]? with
    | none => rfl
    | some c => simp only [Dialogue.bind_assoc, Dialogue.pure_eq_done, Dialogue.done_bind]
  | applyOutcome n =>
    simp only [History.step, withAmountOf]
    cases h.outcomes[n]? with
    | none => rfl
    | some o => simp only [Form.applyOutcome_withAmountOf, Dialogue.pure_eq_done, Dialogue.done_bind]
  | _ => cases hside

theorem step_validateAmount (h : History) :
    h.step .validateAmount =
      .done (.amount h.form.validateAmount.1, { h with form := h.form.validateAmount.2 }) := by
  simp only [History.step, Dialogue.pure_eq_done]

theorem step_amount {step : Step} (hside : step.side? = some .amount) (g : History) :
    ∃ r g', g.step step = .done (r, g') ∧
      ∀ h : History, (h.withAmountOf g).step step = .done (r, h.withAmountOf g') := by
  cases step with
  | setBalance raw =>
    refine ⟨_, _, rfl, fun h => ?_⟩
    simp only [History.step, withAmountOf, Form.setBalance_withAmountOf, Dialogue.pure_eq_done]
  | editAmount input =>
    refine ⟨_, _, rfl, fun h => ?_⟩
    simp only [History.step, withAmountOf, Form.editAmount_withAmountOf, Dialogue.pure_eq_done]
  | validateAmount =>
    refine ⟨_, _, step_validateAmount g, fun h => ?_⟩
    rw [step_validateAmount]
    simp only [withAmountOf, Form.validateAmount_withAmountOf]
  | _ => cases hside

theorem step_comm {h : History} {d a : Step} (hd : d.side? = some .destination)
    (ha : a.side? = some .amount) :
    (h.step d >>= fun p => p.2.step a >>= fun q => .done (p.1, q.1, q.2)) =
      h.step a >>= fun q => q.2.step d >>= fun p => .done (p.1, q.1, p.2) := by
  obtain ⟨r, g, hr, hwith⟩ := step_amount ha h
  have hkept : h.step d = h.step d >>= fun p => .done (p.1, p.2.withAmountOf h) := step_destination hd h h
  have hafter : h.step a = .done (r, h.withAmountOf g) := hwith h
  rw [hkept, hafter]
  simp only [Dialogue.bind_assoc, Dialogue.done_bind, hwith, step_destination hd h g]

def perform : History → List Step → Talk (List (Step × Result) × History)
  | h, [] => .done ([], h)
  | h, step :: steps => do
    let (result, h) ← h.step step
    let (results, h) ← perform h steps
    return ((step, result) :: results, h)

theorem perform_cons (h : History) (step : Step) (steps : List Step) :
    h.perform (step :: steps) = h.step step >>= fun p =>
      p.2.perform steps >>= fun q => .done ((step, p.1) :: q.1, q.2) :=
  rfl

/-- What became of a script: the results of the steps on either field, and the history they lead to. -/
structure Upshot where
  destination : List (Step × Result)
  amount : List (Step × Result)
  history : History

def upshot (p : List (Step × Result) × History) : Upshot :=
  ⟨p.1.filter fun x => x.1.isOn .destination, p.1.filter fun x => x.1.isOn .amount, p.2⟩

theorem perform_amount (g : History) {script : List Step} (hside : ∀ s ∈ script, s.side? = some .amount) :
    ∃ results g', g.perform script = .done (results, g') := by
  induction script generalizing g with
  | nil => exact ⟨[], g, rfl⟩
  | cons step script ih =>
    obtain ⟨hstep, hscript⟩ := List.forall_mem_cons.1 hside
    obtain ⟨r, g', hr, -⟩ := step_amount hstep g
    obtain ⟨results, g'', hresults⟩ := ih g' hscript
    exact ⟨(step, r) :: results, g'', by rw [perform_cons, hr, Dialogue.done_bind, hresults]; rfl⟩

theorem upshot_cons_destination {step : Step} (hside : step.side? = some .destination) (r : Result)
    (q : List (Step × Result) × History) :
    upshot ((step, r) :: q.1, q.2) =
      { upshot q with destination := (step, r) :: (upshot q).destination } := by
  simp [upshot, Step.isOn, hside]

theorem upshot_cons_amount {step : Step} (hside : step.side? = some .amount) (r : Result)
    (q : List (Step × Result) × History) :
    upshot ((step, r) :: q.1, q.2) = { upshot q with amount := (step, r) :: (upshot q).amount } := by
  simp [upshot, Step.isOn, hside]

-- the induction carries two histories, since either half of the script goes its own way from the start, and
-- what is done with the upshot, since a step adds its result to that of the steps behind it
theorem perform_withAmountOf {β : Type} {script : List Step} (hsided : ∀ s ∈ script, s.side?.isSome)
    (h g : History) (next : Upshot → Talk β) :
    ((h.withAmountOf g).perform script >>= fun p => next (upshot p)) =
      h.perform (script.filter (·.isOn .destination)) >>= fun p =>
        g.perform (script.filter (·.isOn .amount)) >>= fun q =>
          next ⟨p.1, q.1, p.2.withAmountOf q.2⟩ := by
  induction script generalizing h g next with
  | nil => rfl
  | cons step script ih =>
    obtain ⟨hstep, hscript⟩ := List.forall_mem_cons.1 hsided
    obtain ⟨side, hside⟩ := Option.isSome_iff_exists.1 hstep
    cases side with
    | destination =>
      have hon : step.isOn .destination = true := by simp [Step.isOn, hside]
      have hoff : step.isOn .amount = false := by simp [Step.isOn, hside]
      rw [List.filter_cons_of_pos hon, List.filter_cons_of_neg (by simp [hoff]), perform_cons, perform_cons,
        step_destination hside]
      simp only [Dialogue.bind_assoc, Dialogue.done_bind, upshot_cons_destination hside]
      refine congrArg _ (funext fun p => ?_)
      exact ih hscript p.2 g fun u => next { u with destination := (step, p.1) :: u.destination }
    | amount =>
      have hon : step.isOn .amount = true := by simp [Step.isOn, hside]
      have hoff : step.isOn .destination = false := by simp [Step.isOn, hside]
      obtain ⟨r, g', hr, hwith⟩ := step_amount hside g
      rw [List.filter_cons_of_neg (by simp [hoff]), List.filter_cons_of_pos hon, perform_cons, perform_cons,
        hwith h, hr]
      simp only [Dialogue.bind_assoc, Dialogue.done_bind, upshot_cons_amount hside]
      exact ih hscript h g' fun u => next { u with amount := (step, r) :: u.amount }

def destinationContent (h : History) : String × Field String AddressError × List Check × List Outcome :=
  (h.form.destinationInput, h.form.destination, h.checks, h.outcomes)

def amountContent (h : History) : Option Word × String × Field ValidAmount AmountError :=
  (h.form.balance, h.form.amountInput, h.form.amount)

theorem exists_perform_eq {script : List Step} (hsided : ∀ s ∈ script, s.side?.isSome) (h : History) :
    ∃ results g, h.perform (script.filter (·.isOn .amount)) = .done (results, g) ∧
      ∀ {β : Type} (next : Upshot → Talk β),
        (h.perform script >>= fun p => next (upshot p)) =
          h.perform (script.filter (·.isOn .destination)) >>= fun p =>
            next ⟨p.1, results, p.2.withAmountOf g⟩ := by
  have hamount : ∀ s ∈ script.filter (·.isOn .amount), s.side? = some .amount := by
    intro s hs
    simpa [Step.isOn] using (List.mem_filter.1 hs).2
  obtain ⟨results, g, hg⟩ := perform_amount h hamount
  refine ⟨results, g, hg, fun next => ?_⟩
  have hperform := perform_withAmountOf hsided h h next
  simpa only [withAmountOf_self, hg, Dialogue.done_bind] using hperform

theorem fields_do_not_interfere (h : History) {script : List Step}
    (hsided : ∀ s ∈ script, s.side?.isSome) :
    ((h.perform script >>= fun p => .done ((upshot p).destination, p.2.destinationContent)) =
        h.perform (script.filter (·.isOn .destination)) >>= fun p =>
          .done (p.1, p.2.destinationContent)) ∧
      (∃ results g, h.perform (script.filter (·.isOn .amount)) = .done (results, g) ∧
        ∀ asked p, Runs (h.perform script) asked p →
          (upshot p).amount = results ∧ p.2.amountContent = g.amountContent) ∧
      (∀ other : List Step, (∀ s ∈ other, s.side?.isSome) →
        (∀ side, other.filter (·.isOn side) = script.filter (·.isOn side)) →
        (h.perform other >>= fun p => .done (upshot p)) =
            (h.perform script >>= fun p => .done (upshot p)) ∧
          ∀ final : List Step, (h.perform other >>= fun p => p.2.perform final) =
            h.perform script >>= fun p => p.2.perform final) ∧
      ∀ d a : Step, d.side? = some .destination → a.side? = some .amount →
        (h.step d >>= fun p => p.2.step a >>= fun q => .done (p.1, q.1, q.2)) =
          h.step a >>= fun q => q.2.step d >>= fun p => .done (p.1, q.1, p.2) := by
  obtain ⟨results, g, hg, hperform⟩ := exists_perform_eq hsided h
  refine ⟨hperform fun u => .done (u.destination, u.history.destinationContent), ⟨results, g, hg, ?_⟩, ?_, ?_⟩
  · intro asked p hp
    have hupshot : Runs (h.perform script >>= fun p => .done (upshot p)) asked (upshot p) :=
      runs_bind_done_iff.2 ⟨p, hp, rfl⟩
    rw [hperform fun u => .done u] at hupshot
    obtain ⟨p', -, hp'⟩ := runs_bind_done_iff.1 hupshot
    have hhistory : p.2 = p'.2.withAmountOf g := congrArg Upshot.history hp'
    exact ⟨congrArg Upshot.amount hp', by rw [hhistory]; rfl⟩
  · intro other hother hsame
    obtain ⟨results', g', hg', hother⟩ := exists_perform_eq hother h
    rw [hsame] at hg'
    rw [hg] at hg'
    cases hg'
    have heq : ∀ {β : Type} (next : Upshot → Talk β),
        (h.perform other >>= fun p => next (upshot p)) = h.perform script >>= fun p => next (upshot p) := by
      intro β next
      rw [hother next, hperform next, hsame]
    exact ⟨heq fun u => .done u, fun final => heq fun u => u.history.perform final⟩
  · exact fun d a => step_comm

def crossing : List Step :=
  [.editAmount "1.5", .editDestination "GDEST", .setBalance fiveTokens, .beginCheck, .validateAmount,
    .runCheck 2, .editAmount "2", .applyOutcome 2, .validateAmount]

def oneByOne : List Step :=
  crossing.filter (·.isOn .destination) ++ crossing.filter (·.isOn .amount)

theorem fields_do_not_interfere_crossing :
    (∀ s ∈ crossing, s.side?.isSome) ∧
      (∀ asked p, Runs (overtaken.2.perform crossing) asked p →
        p.2.amountContent = (some fiveTokens, "2", .valid ⟨⟨2, 0⟩, ⟨20000000, by decide⟩⟩)) ∧
      (overtaken.2.perform oneByOne >>= fun p => p.2.perform [.submit]) =
        (overtaken.2.perform crossing >>= fun p => p.2.perform [.submit]) ∧
      (((overtaken.2.perform oneByOne >>= fun p => p.2.perform [.submit]).answered agreeable).1.map fun x => x.1) =
        [.account "GDEST", .dispatch ⟨"GDEST", ⟨2, 0⟩, fiveTokens⟩] := by
  have hsided : ∀ s ∈ crossing, s.side?.isSome := by decide
  obtain ⟨-, ⟨results, g, hg, hamount⟩, hother, -⟩ := fields_do_not_interfere overtaken.2 hsided
  have hcontent : g.amountContent = (some fiveTokens, "2", .valid ⟨⟨2, 0⟩, ⟨20000000, by decide⟩⟩) := by
    have hlast := congrArg (fun d : Talk _ => (d.answered agreeable).2.2.amountContent) hg
    exact hlast.symm.trans (by decide +kernel)
  refine ⟨hsided, fun asked p hp => (hamount asked p hp).2.trans hcontent, ?_, by decide +kernel⟩
  refine (hother oneByOne (by decide) fun side => ?_).2 [.submit]
  cases side <;> rfl

end History
end TokenBridge.Withdrawal
