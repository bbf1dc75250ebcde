import Mathlib.Data.List.DropRight
import TokenBridge.Proofs.Amount.Printer
import TokenBridge.Proofs.Withdrawal.AmountField

namespace TokenBridge.Withdrawal

open Stellar (Asset)

def Step.typedAmount (typed : Option String) : Step → Option String
  | .editAmount input => some input
  | .reset => none
  | _ => typed

variable {raw balance : Word}

theorem validateInput_formatBalance (hpos : 0 < raw.val) (hle : raw.val ≤ balance.val) :
    ∃ v, validateInput (Amount.formatBalance raw) balance = .ok v ∧ v.raw = raw := by
  obtain ⟨d, hparse, hvalue⟩ := Amount.parse_formatBalance raw
  have hpositive : 0 < d.value := by
    rw [hvalue]
    positivity
  refine ⟨⟨d, raw⟩, ?_, rfl⟩
  rw [validateInput, hparse]
  exact validateAmount_eq_ok_iff.2 ⟨rfl, hpositive, Amount.baseUnits_eq_iff.2 hvalue, hle⟩

theorem validateInput_formatBalance_zero (hzero : raw.val = 0) :
    validateInput (Amount.formatBalance raw) balance = .error .nonPositive := by
  obtain ⟨d, hparse, hvalue⟩ := Amount.parse_formatBalance raw
  have hnone : d.value ≤ 0 := by simp [hvalue, hzero]
  rw [validateInput, hparse]
  exact validateAmount_eq_error_iff.2 (.inl ⟨hnone, rfl⟩)

namespace Form

variable {f : Form}

def prefill (balance : Option Word) : String :=
  (balance.map Amount.formatBalance).getD ""

/-- Checking the amount accepts it, and what it accepts is all of `raw`. -/
def WithdrawsAll (f : Form) (raw : Word) : Prop :=
  ∃ v, f.validateAmount = (.ok (), { f with amount := .valid v }) ∧ v.raw = raw

structure Follows (f : Form) (typed : Option String) : Prop where
  input : f.amountInput = typed.getD (prefill f.balance)
  edited : f.amountEdited = typed.isSome

theorem follows_reset (f : Form) : f.reset.Follows none := by
  unfold Form.reset
  cases hb : f.balance <;> exact ⟨rfl, rfl⟩

theorem Follows.setBalance {typed : Option String} (h : f.Follows typed) (raw : Word) :
    (f.setBalance raw).Follows typed := by
  cases typed with
  | none => exact ⟨by simp [Form.setBalance, h.edited, prefill], h.edited⟩
  | some input => exact ⟨by simp [Form.setBalance, h.edited, h.input], h.edited⟩

theorem Follows.withdrawsAll (h : f.Follows none) (hbalance : f.balance = some raw) (hpos : 0 < raw.val) :
    f.WithdrawsAll raw := by
  obtain ⟨v, hv, hraw⟩ := validateInput_formatBalance hpos (le_refl raw.val)
  have hcheck : validateInput f.amountInput f.available = .ok v := by
    rw [h.input, Form.available, hbalance]
    exact hv
  refine ⟨v, ?_, hraw⟩
  rw [Form.validateAmount, hcheck]
  rfl

theorem Follows.refused (h : f.Follows none) (hbalance : f.balance = some raw) (hzero : raw.val = 0) :
    f.validateAmount = (.error .nonPositive, { f with amount := .invalid .nonPositive }) := by
  have hcheck : validateInput f.amountInput f.available = .error .nonPositive := by
    rw [h.input, Form.available, hbalance]
    exact validateInput_formatBalance_zero hzero
  rw [Form.validateAmount, hcheck]
  rfl

end Form

namespace History

variable {asset : Asset} {h h' : History} {step : Step} {asked : Asked} {r : Result} {turns : List Turn}
  {typed : Option String}

theorem Move.follows (hm : Move h step asked r h') (hf : h.form.Follows typed) :
    h'.form.Follows (step.typedAmount typed) := by
  cases hm with
  | setBalance raw => exact hf.setBalance raw
  | editAmount input => exact ⟨rfl, rfl⟩
  | reset => exact Form.follows_reset h.form
  | refuseDestination hd =>
    rcases Form.runs_validateDestination hd with ⟨e, -, -, -, rfl⟩ | ⟨address, answer, -, -, -, rfl⟩ <;>
      exact ⟨hf.input, hf.edited⟩
  | _ => exact ⟨hf.input, hf.edited⟩

def typedAmount (turns : List Turn) : Option String :=
  turns.foldl (fun typed t => t.step.typedAmount typed) none

def sinceReset (turns : List Turn) : List Turn :=
  turns.rtakeWhile fun t => t.step ≠ .reset

theorem Reached.follows (hr : Reached asset turns h) : h.form.Follows (typedAmount turns) := by
  induction hr with
  | start => exact ⟨rfl, rfl⟩
  | turn _ hrun ih =>
    rw [typedAmount, List.foldl_concat]
    exact (move_of_runs hrun).follows ih

theorem typedAmount_of_untyped (h : ∀ t ∈ sinceReset turns, ∀ input, t.step ≠ .editAmount input) :
    typedAmount turns = none := by
  induction turns using List.reverseRecOn with
  | nil => rfl
  | append_singleton turns t ih =>
    rw [typedAmount, List.foldl_concat, ← typedAmount]
    by_cases hreset : t.step = .reset
    · rw [hreset]
      rfl
    · have hsince : sinceReset (turns ++ [t]) = sinceReset turns ++ [t] :=
        List.rtakeWhile_concat_pos _ _ _ (decide_eq_true hreset)
      rw [hsince, List.forall_mem_append, List.forall_mem_singleton] at h
      rw [ih h.1]
      cases hstep : t.step with
      | editAmount input => exact absurd hstep (h.2 input)
      | _ => rfl

theorem foldl_typedAmount_of_kept {later : List Turn}
    (h : ∀ u ∈ later, u.step ≠ .reset ∧ ∀ input, u.step ≠ .editAmount input) :
    later.foldl (fun typed t => t.step.typedAmount typed) typed = typed := by
  induction later with
  | nil => rfl
  | cons u later ih =>
    obtain ⟨⟨hreset, hedit⟩, hlater⟩ := List.forall_mem_cons.1 h
    have hkept : u.step.typedAmount typed = typed := by
      cases hstep : u.step with
      | reset => exact absurd hstep hreset
      | editAmount input => exact absurd hstep (hedit input)
      | _ => rfl
    rw [List.foldl_cons, hkept, ih hlater]

theorem prefilled_withdraws_all (hr : Reached asset turns h) :
    ((∀ t ∈ sinceReset turns, ∀ input, t.step ≠ .editAmount input) →
      h.form.amountInput = (h.form.balance.map Amount.formatBalance).getD "" ∧
        (∀ raw, h.form.balance = some raw → 0 < raw.val → h.form.WithdrawsAll raw) ∧
        ∀ raw, (0 < raw.val → (h.form.setBalance raw).WithdrawsAll raw) ∧
          (raw.val = 0 → (h.form.setBalance raw).validateAmount =
            (.error .nonPositive, { h.form.setBalance raw with amount := .invalid .nonPositive }))) ∧
      ∀ earlier t later input, turns = earlier ++ t :: later → t.step = .editAmount input →
        (∀ u ∈ later, u.step ≠ .reset ∧ ∀ other, u.step ≠ .editAmount other) →
          h.form.amountInput = input := by
  have hfollows := hr.follows
  refine ⟨fun huntyped => ?_, fun earlier t later input hsplit hedit hkept => ?_⟩
  · rw [typedAmount_of_untyped huntyped] at hfollows
    refine ⟨hfollows.input, fun raw => hfollows.withdrawsAll, fun raw => ?_⟩
    have hset := hfollows.setBalance raw
    exact ⟨hset.withdrawsAll rfl, hset.refused rfl⟩
  · have htyped : typedAmount turns = some input := by
      rw [hsplit, typedAmount, List.foldl_append, List.foldl_cons, foldl_typedAmount_of_kept hkept, hedit]
      rfl
    rw [hfollows.input, htyped]
    rfl

def refilled : List Turn × History :=
  play agreeable (.start ⟨"TFT", "GISSUER"⟩)
    [.setBalance fiveTokens, .editAmount "2.50", .reset, .setBalance ⟨1000000000000000000000000010, by decide⟩]

theorem prefilled_withdraws_all_refilled :
    (Reached ⟨"TFT", "GISSUER"⟩ refilled.1 refilled.2 ∧
      refilled.2.form.amountInput = "100000000000000000000.000001" ∧
      refilled.2.form.WithdrawsAll ⟨1000000000000000000000000010, by decide⟩) ∧
    Reached ⟨"TFT", "GISSUER"⟩ payout.1 payout.2 ∧ payout.2.form.amountInput = "2.50" := by
  have hreached : Reached ⟨"TFT", "GISSUER"⟩ refilled.1 refilled.2 := Reached.of_play _ _
  have hsince : (sinceReset refilled.1).map Turn.step =
      [.setBalance ⟨1000000000000000000000000010, by decide⟩] := by decide +kernel
  obtain ⟨hinput, hall, -⟩ := (prefilled_withdraws_all hreached).1 fun t ht input hedit => by
    have hmem := List.mem_map_of_mem (f := Turn.step) ht
    rw [hsince, List.mem_singleton, hedit] at hmem
    cases hmem
  have hkept := (prefilled_withdraws_all reached_payout).2 (payout.1.take 2) _ (payout.1.drop 3) "2.50" rfl rfl
  have hlater : (payout.1.drop 3).map Turn.step = [.validateAndSubmit] := by decide +kernel
  refine ⟨⟨hreached, hinput.trans (by decide +kernel), hall _ rfl (by decide)⟩, reached_payout, hkept fun u hu => ?_⟩
  have hmem := List.mem_map_of_mem (f := Turn.step) hu
  rw [hlater, List.mem_singleton] at hmem
  rw [hmem]
  simp

end History
end TokenBridge.Withdrawal
