import TokenBridge.Proofs.Withdrawal.History
import TokenBridge.Proofs.Withdrawal.Judgement

namespace TokenBridge.Withdrawal

open Stellar (Asset)
open Dialogue (Runs)

def Step.balance? : Step → Option Word
  | .setBalance raw => some raw
  | _ => none

namespace Form

def AmountCurrent (f : Form) : Prop :=
  f.amount = .empty ∨ f.amount = .ofResult (validateInput f.amountInput f.available)

structure Covers (f : Form) (v : ValidAmount) (limit : Word) : Prop where
  amount : f.amount = .valid v
  balance : f.balance = some limit
  pos : 0 < v.raw.val
  le_limit : v.raw.val ≤ limit.val
  raw : Amount.toBaseUnits v.amount = .ok v.raw
  exact : Amount.baseUnits v.amount = v.raw.val

variable {f : Form}

theorem AmountCurrent.ne_validating (hf : f.AmountCurrent) : f.amount ≠ .validating := by
  rcases hf with h | h
  · rw [h]
    simp
  · rw [h]
    cases validateInput f.amountInput f.available <;> simp [Field.ofResult]

theorem AmountCurrent.of_valid {v : ValidAmount} (hf : f.AmountCurrent) (hv : f.amount = .valid v) :
    validateInput f.amountInput f.available = .ok v := by
  rcases hf with h | h
  · rw [h] at hv
    cases hv
  · rw [h] at hv
    cases hr : validateInput f.amountInput f.available with
    | ok w =>
      rw [hr] at hv
      cases hv
      rfl
    | error e =>
      rw [hr] at hv
      cases hv

theorem AmountCurrent.of_invalid {e : AmountError} (hf : f.AmountCurrent) (he : f.amount = .invalid e) :
    validateInput f.amountInput f.available = .error e := by
  rcases hf with h | h
  · rw [h] at he
    cases he
  · rw [h] at he
    cases hr : validateInput f.amountInput f.available with
    | ok w =>
      rw [hr] at he
      cases he
    | error e' =>
      rw [hr] at he
      cases he
      rfl

theorem AmountCurrent.covers {v : ValidAmount} (hf : f.AmountCurrent) (hv : f.amount = .valid v) :
    ∃ limit, f.Covers v limit := by
  obtain ⟨-, hcheck⟩ := validateInput_eq_ok (hf.of_valid hv)
  obtain ⟨-, hraw, hpos, hle, hexact⟩ := validateAmount_eq_ok hcheck
  cases hb : f.balance with
  | none =>
    rw [Form.available, hb] at hle
    exact absurd (hpos.trans_le hle) (lt_irrefl 0)
  | some limit =>
    rw [Form.available, hb] at hle
    exact ⟨limit, hv, hb, hpos, hle, hraw, hexact⟩

end Form

namespace History

variable {asset : Asset} {h h' : History} {step : Step} {asked : Asked} {r : Result}

theorem Move.balance (hm : Move h step asked r h') :
    h'.form.balance = step.balance?.or h.form.balance := by
  cases hm with
  | reset => exact Form.reset_balance h.form
  | refuseDestination hd =>
    rcases Form.runs_validateDestination hd with ⟨e, -, -, -, rfl⟩ | ⟨address, answer, -, -, -, rfl⟩ <;>
      rfl
  | _ => rfl

theorem Move.amountCurrent (hm : Move h step asked r h') (hf : h.form.AmountCurrent) :
    h'.form.AmountCurrent := by
  cases hm with
  | setBalance raw => exact .inl rfl
  | editAmount input => exact .inl rfl
  | reset => exact .inl (Form.reset_amount h.form)
  | validateAmount => exact .inr (by simp only [Form.available])
  | refuseDestination hd =>
    rcases Form.runs_validateDestination hd with ⟨e, -, -, -, rfl⟩ | ⟨address, answer, -, -, -, rfl⟩ <;>
      exact hf
  | refuseAmount ha ht hv => exact .inr (congrArg Field.ofResult hv.symm)
  | validateAndSubmit answer ha ht hv => exact .inr (congrArg Field.ofResult hv.symm)
  | _ => exact hf

variable {turns : List Turn}

theorem Reached.amountCurrent (hr : Reached asset turns h) : h.form.AmountCurrent := by
  induction hr with
  | start => exact .inl rfl
  | turn _ hrun ih => exact (move_of_runs hrun).amountCurrent ih

theorem Reached.balance (hr : Reached asset turns h) :
    h.form.balance = (turns.filterMap fun t => t.step.balance?).getLast? := by
  induction hr with
  | start => rfl
  | @turn turns h h' step asked result _ hrun ih =>
    rw [(move_of_runs hrun).balance, ih, List.filterMap_append, List.getLast?_append]
    cases hs : step.balance? <;> simp [List.filterMap, hs]

theorem Reached.dispatched (hr : Reached asset turns h) {t : Turn} (ht : t ∈ turns) {request : Request}
    {answer : Except NetworkError Hash} (hq : ⟨.dispatch request, answer⟩ ∈ t.asked) :
    t.before.form.balance = some request.sourceBalance ∧
      ∃ v, request.amount = v.amount ∧ t.after.form.Covers v request.sourceBalance := by
  obtain ⟨earlier, later, hsplit⟩ := List.append_of_mem ht
  obtain ⟨-, hrun, hafter⟩ := hr.of_split hsplit
  obtain ⟨hstep, hrequest⟩ := (move_of_runs hrun).dispatched hq
  obtain ⟨v, -, hv, hamount, hsource⟩ := Form.eq_of_request hrequest
  obtain ⟨limit, hcovers⟩ := hafter.amountCurrent.covers hv
  have hlimit : request.sourceBalance = limit := by
    rw [hsource, Form.available, hcovers.balance]
    rfl
  have hsame : t.after.form.balance = t.before.form.balance := by
    rw [(move_of_runs hrun).balance]
    rcases hstep with hs | hs <;> rw [hs] <;> rfl
  rw [hlimit, ← hsame]
  exact ⟨hcovers.balance, v, hamount, hcovers⟩

theorem amount_current_and_covered (hr : Reached asset turns h) :
    h.form.amount ≠ .validating ∧
      h.form.balance = (turns.filterMap fun t => t.step.balance?).getLast? ∧
      (∀ v, h.form.amount = .valid v →
        validateInput h.form.amountInput (h.form.balance.getD Word.zero) = .ok v ∧
          ∃ limit, h.form.balance = some limit ∧ 0 < v.raw.val ∧ v.raw.val ≤ limit.val ∧
            (v.raw.val : ℚ) = 10 ^ 7 * v.amount.value) ∧
      (∀ e, h.form.amount = .invalid e →
        validateInput h.form.amountInput (h.form.balance.getD Word.zero) = .error e) ∧
      ∀ t ∈ turns, ∀ request answer, ⟨.dispatch request, answer⟩ ∈ t.asked →
        ∃ v, t.after.form.amount = .valid v ∧ request.amount = v.amount ∧
          request.rawAmount = .ok v.raw ∧ 0 < v.raw.val ∧
          v.raw.val ≤ request.sourceBalance.val ∧
          t.before.form.balance = some request.sourceBalance ∧
          t.after.form.balance = some request.sourceBalance := by
  have hf := hr.amountCurrent
  refine ⟨hf.ne_validating, hr.balance, ?_, fun e he => hf.of_invalid he, ?_⟩
  · intro v hv
    obtain ⟨limit, hcovers⟩ := hf.covers hv
    exact ⟨hf.of_valid hv, limit, hcovers.balance, hcovers.pos, hcovers.le_limit, hcovers.exact.symm⟩
  · intro t ht request answer hq
    obtain ⟨hbefore, v, hamount, hcovers⟩ := hr.dispatched ht hq
    have hraw : request.rawAmount = .ok v.raw := by
      rw [Request.rawAmount, hamount]
      exact hcovers.raw
    exact ⟨v, hcovers.amount, hamount, hraw, hcovers.pos, hcovers.le_limit, hbefore,
      hcovers.balance⟩

theorem amount_current_and_covered_payout :
    Reached ⟨"TFT", "GISSUER"⟩ payout.1 payout.2 ∧
      ∃ v limit, payout.2.form.amount = .valid v ∧ v.raw.val = 25000000 ∧
        payout.2.form.balance = some limit ∧ v.raw.val ≤ limit.val ∧
        (v.raw.val : ℚ) = 10 ^ 7 * v.amount.value ∧
        ∃ t ∈ payout.1, ∃ request answer, ⟨.dispatch request, answer⟩ ∈ t.asked ∧
          ∃ raw, request.rawAmount = .ok raw ∧ raw.val ≤ request.sourceBalance.val := by
  have hall := amount_current_and_covered reached_payout
  have hv : payout.2.form.amount = .valid ⟨⟨250, 2⟩, ⟨25000000, by decide⟩⟩ := by decide +kernel
  obtain ⟨-, limit, hlimit, -, hle, hexact⟩ := hall.2.2.1 _ hv
  have hdispatch : payout.1.any fun t => t.asked.any fun x =>
      x.1 = .dispatch ⟨"GDEST", ⟨250, 2⟩, fiveTokens⟩ := by decide +kernel
  simp only [List.any_eq_true, decide_eq_true_eq] at hdispatch
  obtain ⟨t, ht, ⟨_, answer⟩, hq, rfl⟩ := hdispatch
  obtain ⟨w, -, -, hraw, -, hle', -⟩ := hall.2.2.2.2 t ht _ answer hq
  exact ⟨reached_payout, _, limit, hv, rfl, hlimit, hle, hexact, t, ht, _, answer, hq, w.raw, hraw, hle'⟩

end History
end TokenBridge.Withdrawal
