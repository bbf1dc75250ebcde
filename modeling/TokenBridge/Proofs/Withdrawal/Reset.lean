import TokenBridge.Proofs.Withdrawal.Generation

namespace TokenBridge.Withdrawal

open Stellar (Asset AddressError Destination.ofString)
open Dialogue (Runs)

abbrev Answers := (q : Query) → Answer q

def Check.later (d : Nat) (c : Check) : Check :=
  { c with generation := c.generation + d }

def Outcome.later (d : Nat) (o : Outcome) : Outcome :=
  { o with generation := o.generation + d }

theorem Check.run_later (d : Nat) (c : Check) :
    (c.later d).run = c.run >>= fun o => .done (o.later d) := by
  simp only [run, later, Outcome.later, Dialogue.bind_assoc, Dialogue.pure_eq_done,
    Dialogue.done_bind]

namespace Form

/-- What a form shows: all but what it keeps for itself to tell old checks and typed amounts by. -/
structure Shown where
  asset : Asset
  balance : Option Word
  destinationInput : String
  destination : Field String AddressError
  amountInput : String
  amount : Field ValidAmount AmountError
  deriving DecidableEq, Repr

def shown (f : Form) : Shown :=
  ⟨f.asset, f.balance, f.destinationInput, f.destination, f.amountInput, f.amount⟩

def fresh (asset : Asset) : Option Word → Form
  | some raw => (new asset).setBalance raw
  | none => new asset

def later (d : Nat) (f : Form) : Form :=
  { f with generation := f.generation + d }

theorem reset_eq (f : Form) : f.reset = (fresh f.asset f.balance).later (f.generation + 1) := by
  unfold reset
  cases f.balance with
  | some raw => simp [fresh, later, setBalance, new]
  | none => simp [fresh, later, new]

variable (d : Nat) (f : Form)

theorem shown_later : (f.later d).shown = f.shown :=
  rfl

theorem reset_later : (f.later d).reset = f.reset.later d := by
  rw [reset_eq, reset_eq, later, later, later, later]
  simp only [Nat.add_assoc, Nat.add_comm]

theorem setBalance_later (raw : Word) : (f.later d).setBalance raw = (f.setBalance raw).later d :=
  rfl

theorem editAmount_later (input : String) :
    (f.later d).editAmount input = (f.editAmount input).later d :=
  rfl

theorem validateAmount_later :
    (f.later d).validateAmount = (f.validateAmount.1, f.validateAmount.2.later d) := by
  simp only [validateAmount, later, available]

theorem request_later : (f.later d).request = f.request :=
  rfl

theorem editDestination_later (input : String) :
    (f.later d).editDestination input = (f.editDestination input).later d := by
  simp only [editDestination, later, Nat.add_right_comm]

theorem beginCheck_later :
    (f.later d).beginCheck = (f.beginCheck.1.map (Check.later d), f.beginCheck.2.later d) := by
  unfold beginCheck
  cases ha : Destination.ofString f.destinationInput with
  | error e => simp [later, ha, Except.map]
  | ok address => simp [later, ha, Except.map, Check.later]

theorem applyOutcome_later (o : Outcome) :
    (f.later d).applyOutcome (o.later d) = ((f.applyOutcome o).1, (f.applyOutcome o).2.later d) := by
  simp only [applyOutcome, later, Outcome.later, Nat.add_right_cancel_iff]
  split <;> rfl

theorem validateDestination_later :
    (f.later d).validateDestination =
      f.validateDestination >>= fun p => .done (p.1, p.2.later d) := by
  unfold validateDestination
  rw [beginCheck_later]
  rcases f.beginCheck with ⟨e | check, form⟩
  · rfl
  · simp only [Except.map, Check.run_later, applyOutcome_later, Dialogue.bind_assoc,
      Dialogue.pure_eq_done, Dialogue.done_bind]
    rfl

theorem submit_later : (f.later d).submit = f.submit := by
  rw [submit, submit, request_later]

theorem validateAndSubmit_later :
    (f.later d).validateAndSubmit = f.validateAndSubmit >>= fun p => .done (p.1, p.2.later d) := by
  unfold validateAndSubmit
  rw [validateDestination_later, Dialogue.bind_assoc, Dialogue.bind_assoc]
  refine congrArg _ (funext fun p => ?_)
  rcases p with ⟨e | _, form⟩
  · rfl
  · simp only [Dialogue.done_bind, validateAmount_later]
    rcases form.validateAmount with ⟨e | _, form⟩
    · rfl
    · simp only [submit_later, Dialogue.bind_assoc, Dialogue.pure_eq_done, Dialogue.done_bind]

end Form

namespace History

def later (d : Nat) (h : History) : History :=
  ⟨h.form.later d, h.checks.map (Check.later d), h.outcomes.map (Outcome.later d)⟩

theorem step_later (d : Nat) (h : History) (step : Step) :
    (h.later d).step step = h.step step >>= fun p => .done (p.1, p.2.later d) := by
  cases step with
  | setBalance raw =>
    simp only [History.step, later, Form.setBalance_later, Dialogue.pure_eq_done, Dialogue.done_bind]
  | editDestination input =>
    simp only [History.step, later, Form.editDestination_later, Dialogue.pure_eq_done,
      Dialogue.done_bind]
  | editAmount input =>
    simp only [History.step, later, Form.editAmount_later, Dialogue.pure_eq_done, Dialogue.done_bind]
  | reset =>
    simp only [History.step, later, Form.reset_later, Dialogue.pure_eq_done, Dialogue.done_bind]
  | validateAmount =>
    simp only [History.step, later, Form.validateAmount_later, Dialogue.pure_eq_done,
      Dialogue.done_bind]
  | validateDestination =>
    simp only [History.step, later, Form.validateDestination_later, Dialogue.pure_eq_done,
      Dialogue.done_bind, Dialogue.bind_assoc]
  | beginCheck =>
    simp only [History.step, later, Form.beginCheck_later]
    rcases h.form.beginCheck with ⟨e | check, form⟩
    · simp only [Except.map, Dialogue.pure_eq_done, Dialogue.done_bind]
    · simp only [Except.map, Dialogue.pure_eq_done, Dialogue.done_bind, List.length_map,
        List.map_append, List.map_cons, List.map_nil]
      rfl
  | runCheck n =>
    simp only [History.step, later, List.getElem?_map]
    cases h.checks[n]? with
    | none => rfl
    | some c =>
      simp only [Option.map_some, Check.run_later, Dialogue.bind_assoc, Dialogue.pure_eq_done,
        Dialogue.done_bind, List.length_map, List.map_append, List.map_cons, List.map_nil]
  | applyOutcome n =>
    simp only [History.step, later, List.getElem?_map]
    cases h.outcomes[n]? with
    | none => rfl
    | some o =>
      simp only [Option.map_some, Form.applyOutcome_later, Dialogue.pure_eq_done, Dialogue.done_bind]
  | request =>
    simp only [History.step, later, Form.request_later, Dialogue.pure_eq_done, Dialogue.done_bind]
  | submit =>
    simp only [History.step, later, Form.submit_later, Dialogue.pure_eq_done, Dialogue.done_bind,
      Dialogue.bind_assoc]
  | validateAndSubmit =>
    simp only [History.step, later, Form.validateAndSubmit_later, Dialogue.pure_eq_done,
      Dialogue.done_bind, Dialogue.bind_assoc]

/-- What there is to see of a step: what was asked and answered, its result, and the form it leaves. -/
structure Sight where
  asked : Asked
  result : Result
  shown : Form.Shown

def sights : History → List (Step × Answers) → List Sight
  | _, [] => []
  | h, (step, answers) :: script =>
    let turn := take answers h step
    ⟨turn.asked, turn.result, turn.after.form.shown⟩ :: sights turn.after script

theorem sights_later (d : Nat) (h : History) (script : List (Step × Answers)) :
    (h.later d).sights script = h.sights script := by
  induction script generalizing h with
  | nil => rfl
  | cons item script ih =>
    obtain ⟨step, answers⟩ := item
    have hturn : ((h.later d).step step).answered answers =
        (((h.step step).answered answers).1, ((h.step step).answered answers).2.1,
          ((h.step step).answered answers).2.2.later d) := by
      rw [step_later, Dialogue.answered_bind]
      simp only [Dialogue.answered, List.append_nil]
    simp only [sights, take, hturn, ih]
    rfl

theorem take_generation_le (answers : Answers) (h : History) (step : Step) :
    h.form.generation ≤ (take answers h step).after.form.generation := by
  have hmove := (move_of_runs (Dialogue.runs_answered answers (h.step step))).generation
  rw [take, hmove]
  exact Nat.le_add_right ..

end History

/-- A form that was reset, together with the checks and outcomes that are left from before. -/
structure Aftermath where
  history : History
  oldChecks : List Check
  oldOutcomes : List Outcome

namespace Aftermath

def ofReset (h : History) : Aftermath :=
  ⟨⟨h.form.reset, [], []⟩, h.checks, h.outcomes⟩

/-- Whatever may be done with any form, and what only one that was reset can be troubled with: to run a check
that was begun before, and to apply an outcome of such a check. -/
inductive Step
  | own (step : Withdrawal.Step)
  | runOld (check : Nat)
  | applyOld (outcome : Nat)

def Step.own? : Step → Option Withdrawal.Step
  | .own step => some step
  | _ => none

def step (a : Aftermath) : Step → Talk (Result × Aftermath)
  | .own step => do
    let (result, history) ← a.history.step step
    return (result, { a with history := history })
  | .runOld n =>
    match a.oldChecks[n]? with
    | none => return (.ran none, a)
    | some check => do
      let outcome ← check.run
      return (.ran (some a.oldOutcomes.length), { a with oldOutcomes := a.oldOutcomes ++ [outcome] })
  | .applyOld n =>
    match a.oldOutcomes[n]? with
    | none => return (.applied none, a)
    | some outcome =>
      let (applied, form) := a.history.form.applyOutcome outcome
      return (.applied (some applied), { a with history := { a.history with form := form } })

def play : Aftermath → List (Step × Answers) → List (Step × History.Sight) × Aftermath
  | a, [] => ([], a)
  | a, (step, answers) :: script =>
    let run := (a.step step).answered answers
    let rest := play run.2.2 script
    ((step, ⟨run.1, run.2.1, run.2.2.history.form.shown⟩) :: rest.1, rest.2)

def ownScript (script : List (Step × Answers)) : List (Withdrawal.Step × Answers) :=
  script.filterMap fun (step, answers) => step.own?.map fun step => (step, answers)

def ownSights (played : List (Step × History.Sight)) : List History.Sight :=
  played.filterMap fun (step, sight) => step.own?.map fun _ => sight

structure Outdated (a : Aftermath) : Prop where
  check : ∀ c ∈ a.oldChecks, c.generation < a.history.form.generation
  outcome : ∀ o ∈ a.oldOutcomes, o.generation < a.history.form.generation

variable {a a' : Aftermath}

theorem outdated_ofReset {asset : Asset} {turns : List History.Turn} {h : History}
    (hr : History.Reached asset turns h) : Outdated (ofReset h) where
  check c hc := by
    have := hr.linked.check_le c hc
    simp only [ofReset, Form.reset_generation]
    omega
  outcome o ho := by
    have := hr.linked.outcome_le o ho
    simp only [ofReset, Form.reset_generation]
    omega

theorem Outdated.applyOld (ha : Outdated a) {k : Nat} {o : Outcome} (ho : a.oldOutcomes[k]? = some o) :
    a.step (.applyOld k) = .done (.applied (some false), a) := by
  have hne : o.generation ≠ a.history.form.generation :=
    (ha.outcome o (List.mem_of_getElem? ho)).ne
  simp only [step, ho, Form.applyOutcome, if_neg hne]
  rfl

theorem Outdated.of_silent (ha : Outdated a) {step : Step} {asked : Asked} {r r' : Result}
    (hsilent : a.step step = .done (r', a)) (h : Runs (a.step step) asked (r, a')) :
    Outdated a' ∧ a'.history = a.history ∧ a'.oldChecks = a.oldChecks ∧
      a.oldOutcomes <+: a'.oldOutcomes := by
  rw [hsilent] at h
  obtain ⟨-, he⟩ := Dialogue.runs_done_iff.1 h
  cases he
  exact ⟨ha, rfl, rfl, List.prefix_rfl⟩

theorem Outdated.old (ha : Outdated a) {step : Step} (hold : step.own? = none) {asked : Asked} {r : Result}
    (h : Runs (a.step step) asked (r, a')) :
    Outdated a' ∧ a'.history = a.history ∧ a'.oldChecks = a.oldChecks ∧
      a.oldOutcomes <+: a'.oldOutcomes := by
  cases step with
  | own step => cases hold
  | runOld n =>
    cases hc : a.oldChecks[n]? with
    | none => exact ha.of_silent (by simp only [Aftermath.step, hc]; rfl) h
    | some c =>
      simp only [Aftermath.step, hc] at h
      obtain ⟨o, hrun, he⟩ := Dialogue.runs_bind_done_iff.1 h
      cases he
      refine ⟨⟨ha.check, fun o' ho' => ?_⟩, rfl, rfl, List.prefix_append ..⟩
      rcases List.mem_append.1 ho' with ho' | ho'
      · exact ha.outcome o' ho'
      · rw [List.mem_singleton.1 ho', Check.generation_of_runs hrun]
        exact ha.check c (List.mem_of_getElem? hc)
  | applyOld n =>
    cases ho : a.oldOutcomes[n]? with
    | none => exact ha.of_silent (by simp only [Aftermath.step, ho]; rfl) h
    | some o => exact ha.of_silent (ha.applyOld ho) h

theorem answered_own (answers : Answers) (a : Aftermath) (step : Withdrawal.Step) :
    (a.step (.own step)).answered answers =
      ((History.take answers a.history step).asked, (History.take answers a.history step).result,
        { a with history := (History.take answers a.history step).after }) := by
  simp only [Aftermath.step, Dialogue.answered_bind, Dialogue.pure_eq_done, Dialogue.answered,
    List.append_nil, History.take]

theorem Outdated.own (ha : Outdated a) (answers : Answers) (step : Withdrawal.Step) :
    Outdated { a with history := (History.take answers a.history step).after } where
  check c hc := (ha.check c hc).trans_le (History.take_generation_le answers a.history step)
  outcome o ho := (ha.outcome o ho).trans_le (History.take_generation_le answers a.history step)

theorem Outdated.play (ha : Outdated a) (script : List (Step × Answers)) :
    Outdated (a.play script).2 ∧ (a.play script).2.oldChecks = a.oldChecks ∧
      a.oldOutcomes <+: (a.play script).2.oldOutcomes ∧
      ownSights (a.play script).1 = a.history.sights (ownScript script) := by
  induction script generalizing a with
  | nil => exact ⟨ha, rfl, List.prefix_rfl, rfl⟩
  | cons item script ih =>
    obtain ⟨step, answers⟩ := item
    cases hstep : step.own? with
    | some own =>
      obtain rfl : step = .own own := by
        cases step <;> simp_all [Step.own?]
      have hown := ih (ha.own answers own)
      simp only [Aftermath.play, answered_own]
      refine ⟨hown.1, hown.2.1, hown.2.2.1, ?_⟩
      exact congrArg _ hown.2.2.2
    | none =>
      obtain ⟨hout, hhistory, hchecks, houtcomes⟩ :=
        ha.old hstep (Dialogue.runs_answered answers (a.step step))
      have hold := ih hout
      simp only [Aftermath.play]
      refine ⟨hold.1, hold.2.1.trans hchecks, houtcomes.trans hold.2.2.1, ?_⟩
      simp only [ownSights, ownScript, List.filterMap_cons, hstep, Option.map_none] at hold ⊢
      rw [hold.2.2.2, hhistory]

end Aftermath

namespace History

variable {asset : Asset} {turns : List Turn} {h : History}

theorem reset_like_fresh (hr : Reached asset turns h) (script : List (Aftermath.Step × Answers)) :
    h.form.reset.shown = (Form.fresh asset h.form.balance).shown ∧
      Aftermath.ownSights ((Aftermath.ofReset h).play script).1 =
        sights ⟨Form.fresh asset h.form.balance, [], []⟩ (Aftermath.ownScript script) ∧
      ∃ a, a = ((Aftermath.ofReset h).play script).2 ∧
        a.oldChecks = h.checks ∧ h.outcomes <+: a.oldOutcomes ∧
        (∀ k o, a.oldOutcomes[k]? = some o →
          a.step (.applyOld k) = .done (.applied (some false), a)) ∧
        ∀ n asked r a', Runs (a.step (.runOld n)) asked (r, a') → a'.history = a.history := by
  have hreset : h.form.reset = (Form.fresh asset h.form.balance).later (h.form.generation + 1) := by
    rw [Form.reset_eq, hr.linked.asset_eq]
  obtain ⟨hout, hchecks, houtcomes, hsights⟩ := (Aftermath.outdated_ofReset hr).play script
  refine ⟨by rw [hreset, Form.shown_later], ?_, _, rfl, hchecks, houtcomes, fun k o => hout.applyOld,
    fun n asked r a' hrun => (hout.old rfl hrun).2.1⟩
  have hhistory : (Aftermath.ofReset h).history =
      later (h.form.generation + 1) ⟨Form.fresh asset h.form.balance, [], []⟩ := by
    rw [Aftermath.ofReset, hreset]
    rfl
  rw [hsights, hhistory, sights_later]

def secondThoughts : List (Aftermath.Step × Answers) :=
  [.own (.editDestination "GNEW"), .runOld 0, .own .beginCheck, .applyOld 0, .applyOld 2,
    .own (.runCheck 0), .own (.applyOutcome 0), .applyOld 1, .own .validateAmount, .own .submit].map
    (·, agreeable)

theorem reset_like_fresh_overtaken :
    Aftermath.ownSights ((Aftermath.ofReset overtaken.2).play secondThoughts).1 =
        sights ⟨Form.fresh ⟨"TFT", "GISSUER"⟩ (some fiveTokens), [], []⟩
          (Aftermath.ownScript secondThoughts) ∧
      (∃ x ∈ ((Aftermath.ofReset overtaken.2).play secondThoughts).1, ∃ answer,
        ⟨.dispatch ⟨"GNEW", ⟨5, 0⟩, fiveTokens⟩, answer⟩ ∈ x.2.asked) ∧
      ∃ a, a = ((Aftermath.ofReset overtaken.2).play secondThoughts).2 ∧ a.oldOutcomes.length = 3 ∧
        a.step (.applyOld 2) = .done (.applied (some false), a) := by
  obtain ⟨-, hsights, a, ha, -, -, happly, -⟩ := reset_like_fresh reached_overtaken secondThoughts
  have hdispatch : ((Aftermath.ofReset overtaken.2).play secondThoughts).1.any fun x =>
      x.2.asked.any fun y => y.1 = .dispatch ⟨"GNEW", ⟨5, 0⟩, fiveTokens⟩ := by decide +kernel
  simp only [List.any_eq_true, decide_eq_true_eq] at hdispatch
  obtain ⟨x, hx, ⟨_, answer⟩, hy, rfl⟩ := hdispatch
  have hlength : a.oldOutcomes.length = 3 := by
    rw [ha]
    decide +kernel
  have hbalance : overtaken.2.form.balance = some fiveTokens := by decide +kernel
  rw [hbalance] at hsights
  have hlast : a.oldOutcomes[2]? = some a.oldOutcomes[2] := List.getElem?_eq_getElem (by omega)
  exact ⟨hsights, ⟨x, hx, answer, hy⟩, a, ha, hlength, happly 2 _ hlast⟩

end History

end TokenBridge.Withdrawal
