import TokenBridge.Proofs.Withdrawal.History

namespace TokenBridge.Withdrawal

open Stellar (Asset AddressError)
open Dialogue (Runs runs_done_iff runs_bind_iff)

def dispatches (asked : Asked) : List (Request × Except NetworkError Hash) :=
  asked.filterMap fun
    | ⟨.dispatch request, answer⟩ => some (request, answer)
    | ⟨.account _, _⟩ => none

/-- What a submission comes to when its request was dispatched and got this answer. -/
def settle (request : Request) : Except NetworkError Hash → Except WithdrawError Form.Receipt
  | .ok transaction => .ok ⟨request, transaction⟩
  | .error e => .error (.network e)

theorem mapError_map_eq_settle (request : Request) (answer : Except NetworkError Hash) :
    (answer.map fun transaction => (⟨request, transaction⟩ : Form.Receipt)).mapError .network =
      settle request answer := by
  cases answer <;> rfl

theorem dispatches_eq_nil {asked : Asked}
    (h : ∀ request answer, ⟨.dispatch request, answer⟩ ∉ asked) : dispatches asked = [] := by
  rw [dispatches, List.filterMap_eq_nil_iff]
  rintro ⟨_ | request, answer⟩ hx
  · rfl
  · exact absurd hx (h request answer)

namespace Form

variable {f : Form} {asked : Asked}

def ready (f : Form) : Bool :=
  f.destination.isValid && f.amount.isValid

def unready (f : Form) : Unready :=
  if f.destination.isValid then .amount else .destination

theorem request_eq (f : Form) :
    (∃ a v, f.destination = .valid a ∧ f.amount = .valid v ∧ f.ready = true ∧
        f.request = .ok ⟨a, v.amount, f.available⟩) ∨
      f.ready = false ∧ f.request = .error (.notReady f.unready) := by
  unfold ready unready request
  cases hd : f.destination with
  | valid a => cases ha : f.amount <;> simp [Field.isValid]
  | _ => simp [Field.isValid]

theorem runs_submit_iff {r : Except WithdrawError Receipt} :
    Runs f.submit asked r ↔
      (∃ a v answer, f.destination = .valid a ∧ f.amount = .valid v ∧
        asked = [⟨.dispatch ⟨a, v.amount, f.available⟩, answer⟩] ∧
        r = settle ⟨a, v.amount, f.available⟩ answer) ∨
      f.ready = false ∧ asked = [] ∧ r = .error (.notReady f.unready) := by
  rcases f.request_eq with ⟨a, v, hd, ha, hready, hrequest⟩ | ⟨hready, hrequest⟩
  · constructor
    · intro h
      rcases runs_submit h with ⟨e, he, -⟩ | ⟨request, answer, hq, hasked, hr⟩
      · rw [hrequest] at he
        cases he
      · rw [hrequest] at hq
        cases hq
        exact .inl ⟨a, v, answer, hd, ha, hasked, hr.trans (mapError_map_eq_settle _ _)⟩
    · rintro (⟨a', v', answer, hd', ha', rfl, rfl⟩ | ⟨hnot, -⟩)
      · rw [hd] at hd'
        rw [ha] at ha'
        cases hd'
        cases ha'
        rw [submit, hrequest]
        refine .ask ?_
        cases answer <;> exact .done _
      · rw [hready] at hnot
        cases hnot
  · constructor
    · intro h
      rw [submit, hrequest] at h
      exact .inr ⟨hready, runs_done_iff.1 h⟩
    · rintro (⟨a, v, answer, hd, ha, -⟩ | ⟨-, rfl, rfl⟩)
      · simp [ready, hd, ha, Field.isValid] at hready
      · rw [submit, hrequest]
        exact .done _

theorem dispatches_validateDestination {f' : Form} {result : Except AddressError Unit}
    (h : Runs f.validateDestination asked (result, f')) : dispatches asked = [] := by
  rcases runs_validateDestination h with ⟨e, -, rfl, -⟩ | ⟨address, answer, -, rfl, -⟩ <;> rfl

end Form

namespace History

variable {asset : Asset} {turns : List Turn} {h h' : History} {step : Step} {asked : Asked} {r : Result}

/-- A submission that came back with what the dispatcher answered. -/
def Turn.isSettled (t : Turn) : Bool :=
  (t.step = .submit || t.step = .validateAndSubmit) &&
    match t.result with
    | .submitted (.ok _) => true
    | .submitted (.error (.network _)) => true
    | _ => false

theorem runs_step_submit_iff :
    Runs (h.step .submit) asked (r, h') ↔
      ∃ receipt, Runs h.form.submit asked receipt ∧ r = .submitted receipt ∧ h' = h := by
  rw [History.step, runs_bind_iff]
  constructor
  · rintro ⟨first, receipt, second, rfl, hs, hdone⟩
    obtain ⟨rfl, he⟩ := runs_done_iff.1 hdone
    cases he
    exact ⟨receipt, by simpa using hs, rfl, rfl⟩
  · rintro ⟨receipt, hs, rfl, rfl⟩
    exact ⟨asked, receipt, [], by simp, hs, .done _⟩

theorem Move.dispatches_eq_nil (hm : Move h step asked r h') (hsubmit : step ≠ .submit)
    (hgo : step ≠ .validateAndSubmit) : dispatches asked = [] := by
  refine Withdrawal.dispatches_eq_nil fun request answer hq => ?_
  rcases (hm.dispatched hq).1 with hs | hs
  · exact hsubmit hs
  · exact hgo hs

theorem Move.validateAndSubmit_cases (hm : Move h .validateAndSubmit asked r h') :
    (∃ e, Runs h.form.validateDestination asked (.error e, h'.form) ∧
        r = .submitted (.error (.address e)) ∧ dispatches asked = [] ∧
        h' = { h with form := { h.form with destination := .invalid e } }) ∨
      (∃ a e, validateInput h.form.amountInput h.form.available = .error e ∧
        r = .submitted (.error (.amount e)) ∧ dispatches asked = [] ∧
        h' = { h with form := { h.form with destination := .valid a, amount := .invalid e } }) ∨
      ∃ a v answer, validateInput h.form.amountInput h.form.available = .ok v ∧
        r = .submitted (settle ⟨a, v.amount, h.form.available⟩ answer) ∧
        dispatches asked = [(⟨a, v.amount, h.form.available⟩, answer)] ∧
        h' = { h with form := { h.form with destination := .valid a, amount := .valid v } } := by
  cases hm with
  | refuseDestination hd =>
    refine .inl ⟨_, hd, rfl, Form.dispatches_validateDestination hd, ?_⟩
    rw [Form.eq_of_runs_validateDestination_error hd]
  | @refuseAmount address account e ha ht hv => exact .inr (.inl ⟨address, e, hv, rfl, rfl, rfl⟩)
  | @validateAndSubmit address account v answer ha ht hv =>
    refine .inr (.inr ⟨address, v, answer, hv, ?_, rfl, rfl⟩)
    rw [mapError_map_eq_settle]

theorem isSettled_settle {request : Request} {answer : Except NetworkError Hash}
    (hs : step = .submit ∨ step = .validateAndSubmit) :
    Turn.isSettled ⟨h, step, asked, .submitted (settle request answer), h'⟩ = true := by
  rcases hs with rfl | rfl <;> cases answer <;> rfl

theorem length_dispatches_of_runs (hrun : Runs (h.step step) asked (r, h')) :
    (dispatches asked).length = if Turn.isSettled ⟨h, step, asked, r, h'⟩ then 1 else 0 := by
  have hm := move_of_runs hrun
  by_cases hsubmit : step = .submit
  · subst hsubmit
    obtain ⟨receipt, hs, rfl, rfl⟩ := runs_step_submit_iff.1 hrun
    rcases Form.runs_submit_iff.1 hs with ⟨a, v, answer, -, -, rfl, rfl⟩ | ⟨-, rfl, rfl⟩
    · rw [isSettled_settle (.inl rfl)]
      rfl
    · rfl
  by_cases hgo : step = .validateAndSubmit
  · subst hgo
    rcases hm.validateAndSubmit_cases with
      ⟨e, -, rfl, hnone, -⟩ | ⟨a, e, -, rfl, hnone, -⟩ | ⟨a, v, answer, -, rfl, hone, -⟩
    · rw [hnone]
      rfl
    · rw [hnone]
      rfl
    · rw [hone, isSettled_settle (.inr rfl)]
      rfl
  · simp [hm.dispatches_eq_nil hsubmit hgo, Turn.isSettled, hsubmit, hgo]

theorem Reached.length_dispatches (hr : Reached asset turns h) :
    (turns.flatMap fun t => dispatches t.asked).length = turns.countP Turn.isSettled := by
  induction hr with
  | start => rfl
  | turn _ hrun ih =>
    rw [List.flatMap_append, List.length_append, ih, List.countP_append, List.countP_singleton,
      List.flatMap_singleton, length_dispatches_of_runs hrun]

theorem dispatched_once_per_submission (hr : Reached asset turns h) :
    (∀ asked r h', Runs (h.step .submit) asked (r, h') ↔
      h' = h ∧
        ((∃ a v answer, h.form.destination = .valid a ∧ h.form.amount = .valid v ∧
            asked = [⟨.dispatch ⟨a, v.amount, h.form.available⟩, answer⟩] ∧
            r = .submitted (settle ⟨a, v.amount, h.form.available⟩ answer)) ∨
          h.form.ready = false ∧ asked = [] ∧ r = .submitted (.error (.notReady h.form.unready)))) ∧
      (∀ asked r h', Runs (h.step .validateAndSubmit) asked (r, h') →
        (∀ field, r ≠ .submitted (.error (.notReady field))) ∧
          ((∃ e, Runs h.form.validateDestination asked (.error e, h'.form) ∧
              r = .submitted (.error (.address e)) ∧ dispatches asked = [] ∧
              h' = { h with form := { h.form with destination := .invalid e } }) ∨
            (∃ a e, validateInput h.form.amountInput h.form.available = .error e ∧
              r = .submitted (.error (.amount e)) ∧ dispatches asked = [] ∧
              h' = { h with form := { h.form with destination := .valid a, amount := .invalid e } }) ∨
            ∃ a v answer, validateInput h.form.amountInput h.form.available = .ok v ∧
              r = .submitted (settle ⟨a, v.amount, h.form.available⟩ answer) ∧
              dispatches asked = [(⟨a, v.amount, h.form.available⟩, answer)] ∧
              h' = { h with form :=
                { h.form with destination := .valid a, amount := .valid v } })) ∧
      (∀ step asked r h', Runs (h.step step) asked (r, h') →
        step ≠ .submit → step ≠ .validateAndSubmit → dispatches asked = []) ∧
      (turns.flatMap fun t => dispatches t.asked).length = turns.countP Turn.isSettled := by
  refine ⟨fun asked r h' => ?_, fun asked r h' hrun => ?_, ?_, hr.length_dispatches⟩
  · rw [runs_step_submit_iff]
    constructor
    · rintro ⟨receipt, hs, rfl, rfl⟩
      refine ⟨rfl, ?_⟩
      rcases Form.runs_submit_iff.1 hs with ⟨a, v, answer, hd, ha, hasked, rfl⟩ | ⟨hnot, hasked, rfl⟩
      · exact .inl ⟨a, v, answer, hd, ha, hasked, rfl⟩
      · exact .inr ⟨hnot, hasked, rfl⟩
    · rintro ⟨rfl, ⟨a, v, answer, hd, ha, hasked, rfl⟩ | ⟨hnot, hasked, rfl⟩⟩
      · exact ⟨_, Form.runs_submit_iff.2 (.inl ⟨a, v, answer, hd, ha, hasked, rfl⟩), rfl, rfl⟩
      · exact ⟨_, Form.runs_submit_iff.2 (.inr ⟨hnot, hasked, rfl⟩), rfl, rfl⟩
  · have hcases := (move_of_runs hrun).validateAndSubmit_cases
    refine ⟨fun field hfield => ?_, hcases⟩
    rcases hcases with ⟨e, -, rfl, -⟩ | ⟨a, e, -, rfl, -⟩ | ⟨a, v, answer, -, rfl, -⟩
    · cases hfield
    · cases hfield
    · cases answer <;> cases hfield
  · intro step asked r h' hrun hsubmit hgo
    exact (move_of_runs hrun).dispatches_eq_nil hsubmit hgo

def persistent : List Turn × History :=
  play agreeable (.start ⟨"TFT", "GISSUER"⟩)
    [.submit, .validateAndSubmit, .editDestination "GDEST", .validateAndSubmit, .submit,
      .setBalance fiveTokens, .validateAndSubmit, .submit]

theorem reached_persistent : Reached ⟨"TFT", "GISSUER"⟩ persistent.1 persistent.2 :=
  Reached.of_play _ _

theorem dispatched_once_persistent :
    Reached ⟨"TFT", "GISSUER"⟩ persistent.1 persistent.2 ∧ persistent.1.length = 8 ∧
      (persistent.1.flatMap fun t => dispatches t.asked).length = 2 ∧
      ∀ answer, Runs (persistent.2.step .submit)
        [⟨.dispatch ⟨"GDEST", ⟨5, 0⟩, fiveTokens⟩, answer⟩]
        (.submitted (settle ⟨"GDEST", ⟨5, 0⟩, fiveTokens⟩ answer), persistent.2) := by
  obtain ⟨hsubmit, -, -, hcount⟩ := dispatched_once_per_submission reached_persistent
  refine ⟨reached_persistent, by decide +kernel, hcount.trans (by decide +kernel), fun answer => ?_⟩
  have ha : persistent.2.form.destination = .valid "GDEST" := by decide +kernel
  have hv : persistent.2.form.amount = .valid ⟨⟨5, 0⟩, fiveTokens⟩ := by decide +kernel
  have hb : persistent.2.form.available = fiveTokens := by decide +kernel
  refine (hsubmit _ _ _).2 ⟨rfl, .inl ⟨"GDEST", ⟨⟨5, 0⟩, fiveTokens⟩, answer, ha, hv, ?_, ?_⟩⟩
  · rw [hb]
  · rw [hb]

end History
end TokenBridge.Withdrawal
