import TokenBridge.Proofs.Dialogue
import TokenBridge.Proofs.Stellar.Destination
import TokenBridge.Proofs.Turns
import TokenBridge.Withdrawal.History

namespace TokenBridge.Withdrawal

open Stellar (Asset AddressError Account Lookup Destination.ofString Destination.judge)
open Dialogue (Runs runs_done_iff runs_ask_iff runs_bind_iff runs_bind_done_iff)

abbrev Asked := List (Exchange Query Answer)

theorem Check.runs_run {c : Check} {asked : Asked} {o : Outcome} (h : Runs c.run asked o) :
    (∃ e, Destination.ofString c.address = .error e ∧ asked = [] ∧ o = ⟨c.generation, .error e⟩) ∨
      ∃ address answer, Destination.ofString c.address = .ok address ∧
        asked = [⟨.account address, answer⟩] ∧
        o = ⟨c.generation, Destination.judge c.asset address answer⟩ := by
  unfold Check.run Stellar.Destination.validate at h
  cases ha : Destination.ofString c.address with
  | error e =>
    simp only [ha, Dialogue.pure_eq_done, Dialogue.done_bind, runs_done_iff] at h
    exact .inl ⟨e, rfl, h.1, h.2⟩
  | ok address =>
    simp only [ha, lookup, Dialogue.pure_eq_done, Dialogue.ask_bind, Dialogue.done_bind,
      runs_ask_iff, runs_done_iff] at h
    obtain ⟨answer, rest, rfl, rfl, rfl⟩ := h
    exact .inr ⟨address, answer, rfl, rfl, rfl⟩

namespace Form

variable {f f' : Form} {asked : Asked}

theorem reset_asset (f : Form) : f.reset.asset = f.asset := by
  unfold reset
  cases f.balance <;> rfl

theorem reset_balance (f : Form) : f.reset.balance = f.balance := by
  unfold reset
  cases f.balance <;> rfl

theorem reset_destination (f : Form) : f.reset.destination = .empty := by
  unfold reset
  cases f.balance <;> rfl

theorem reset_generation (f : Form) : f.reset.generation = f.generation + 1 := by
  unfold reset
  cases f.balance <;> rfl

theorem reset_amount (f : Form) : f.reset.amount = .empty := by
  unfold reset
  cases f.balance <;> rfl

theorem runs_validateDestination {r : Except AddressError Unit}
    (h : Runs f.validateDestination asked (r, f')) :
    (∃ e, Destination.ofString f.destinationInput = .error e ∧ asked = [] ∧ r = .error e ∧
      f' = { f with destination := .invalid e }) ∨
    ∃ address answer, Destination.ofString f.destinationInput = .ok address ∧
      asked = [⟨.account address, answer⟩] ∧
      r = (Destination.judge f.asset address answer).map (fun _ => ()) ∧
      f' = { f with destination := .ofResult (Destination.judge f.asset address answer) } := by
  unfold validateDestination beginCheck at h
  cases ha : Destination.ofString f.destinationInput with
  | error e =>
    simp only [ha, Dialogue.pure_eq_done, runs_done_iff, Prod.mk.injEq] at h
    exact .inl ⟨e, rfl, h.1, h.2.1, h.2.2⟩
  | ok address =>
    simp only [ha, Dialogue.pure_eq_done, runs_bind_iff] at h
    obtain ⟨first, o, second, rfl, hrun, hrest⟩ := h
    obtain ⟨rfl, hr⟩ := runs_done_iff.1 hrest
    cases hr
    have hself := Stellar.Destination.ofString_of_ofString ha
    rcases Check.runs_run hrun with ⟨e, he, -⟩ | ⟨address', answer, ha', rfl, rfl⟩
    · rw [hself] at he
      cases he
    · rw [hself] at ha'
      cases ha'
      exact .inr ⟨_, answer, rfl, rfl, rfl, by simp [applyOutcome]⟩

theorem eq_of_runs_validateDestination_error {e : AddressError}
    (h : Runs f.validateDestination asked (.error e, f')) :
    f' = { f with destination := .invalid e } := by
  rcases runs_validateDestination h with ⟨e', -, -, he, rfl⟩ | ⟨address, answer, -, -, hj, rfl⟩
  · cases he
    rfl
  · cases hjudge : Destination.judge f.asset address answer with
    | ok a =>
      rw [hjudge] at hj
      cases hj
    | error e' =>
      rw [hjudge] at hj
      cases hj
      rfl

theorem eq_of_request {request : Request} (h : f.request = .ok request) :
    ∃ v, f.destination = .valid request.destination ∧ f.amount = .valid v ∧
      request.amount = v.amount ∧ request.sourceBalance = f.available := by
  rw [Form.request] at h
  split at h
  · next hd ha =>
    cases h
    exact ⟨_, hd, ha, rfl, rfl⟩
  · cases h
  · cases h

theorem runs_submit {r : Except WithdrawError Receipt} (h : Runs f.submit asked r) :
    (∃ e, f.request = .error e ∧ asked = [] ∧ r = .error e) ∨
      ∃ request answer, f.request = .ok request ∧ asked = [⟨.dispatch request, answer⟩] ∧
        r = (answer.map fun transaction => ⟨request, transaction⟩).mapError .network := by
  unfold submit at h
  cases hq : f.request with
  | error e =>
    simp only [hq, Dialogue.pure_eq_done, runs_done_iff] at h
    exact .inl ⟨e, rfl, h.1, h.2⟩
  | ok request =>
    simp only [hq, dispatch, Dialogue.ask_bind, runs_ask_iff] at h
    obtain ⟨answer, rest, rfl, hrest⟩ := h
    cases answer with
    | error _ | ok _ =>
      simp only [Dialogue.pure_eq_done, Dialogue.done_bind, runs_done_iff] at hrest
      obtain ⟨rfl, rfl⟩ := hrest
      exact .inr ⟨request, _, rfl, rfl, rfl⟩

theorem runs_validateAndSubmit {r : Except WithdrawError Receipt}
    (h : Runs f.validateAndSubmit asked (r, f')) :
    (∃ e, Runs f.validateDestination asked (.error e, f') ∧ r = .error (.address e)) ∨
    ∃ address account,
      Destination.ofString f.destinationInput = .ok address ∧ account.trusts f.asset ∧
      ((∃ e, validateInput f.amountInput f.available = .error e ∧
          asked = [⟨.account address, .ok account⟩] ∧ r = .error (.amount e) ∧
          f' = { f with destination := .valid address, amount := .invalid e }) ∨
       ∃ v answer, validateInput f.amountInput f.available = .ok v ∧
          asked = [⟨.account address, .ok account⟩,
            ⟨.dispatch ⟨address, v.amount, f.available⟩, answer⟩] ∧
          r = (answer.map fun transaction => ⟨⟨address, v.amount, f.available⟩, transaction⟩).mapError
            .network ∧
          f' = { f with destination := .valid address, amount := .valid v }) := by
  unfold validateAndSubmit at h
  obtain ⟨first, ⟨checked, g⟩, second, rfl, hd, hrest⟩ := runs_bind_iff.1 h
  cases checked with
  | error e =>
    obtain ⟨rfl, hr⟩ := runs_done_iff.1 hrest
    cases hr
    exact .inl ⟨e, by simpa using hd, rfl⟩
  | ok _ =>
    rcases runs_validateDestination hd with ⟨e, -, -, he, -⟩ | ⟨address, answer, ha, rfl, hj, rfl⟩
    · cases he
    cases hjudge : Destination.judge f.asset address answer with
    | error e =>
      rw [hjudge] at hj
      cases hj
    | ok a =>
      obtain ⟨rfl, account, rfl, ht⟩ := Stellar.Destination.judge_eq_ok_iff.1 hjudge
      refine .inr ⟨a, account, ha, ht, ?_⟩
      simp only [hjudge, Field.ofResult, Form.validateAmount, available] at hrest ⊢
      cases hv : validateInput f.amountInput (f.balance.getD Word.zero) with
      | error e =>
        simp only [hv, Except.map] at hrest
        obtain ⟨rfl, hr⟩ := runs_done_iff.1 hrest
        cases hr
        exact .inl ⟨e, rfl, rfl, rfl, rfl⟩
      | ok v =>
        simp only [hv, Except.map] at hrest
        obtain ⟨receipt, hs, hr⟩ := runs_bind_done_iff.1 hrest
        cases hr
        rcases runs_submit hs with ⟨e, he, -⟩ | ⟨request, answer, hq, rfl, rfl⟩
        · simp [request] at he
        · obtain rfl : _ = request := by simpa [Form.request, available] using hq
          exact .inr ⟨v, answer, rfl, rfl, rfl, rfl⟩

end Form

namespace History

variable {asset : Asset} {h h' : History} {asked : Asked}

inductive Move (h : History) : Step → Asked → Result → History → Prop
  | setBalance (raw : Word) :
      Move h (.setBalance raw) [] .none { h with form := h.form.setBalance raw }
  | editDestination (input : String) :
      Move h (.editDestination input) [] .none { h with form := h.form.editDestination input }
  | editAmount (input : String) :
      Move h (.editAmount input) [] .none { h with form := h.form.editAmount input }
  | reset : Move h .reset [] .none { h with form := h.form.reset }
  | validateAmount :
      Move h .validateAmount []
        (.amount ((validateInput h.form.amountInput h.form.available).map fun _ => ()))
        { h with form := { h.form with
            amount := .ofResult (validateInput h.form.amountInput h.form.available) } }
  | refuse {e : AddressError} :
      Destination.ofString h.form.destinationInput = .error e →
      Move h .validateDestination [] (.destination (.error e))
        { h with form := { h.form with destination := .invalid e } }
  | validate {address : String} (answer : Lookup) :
      Destination.ofString h.form.destinationInput = .ok address →
      Move h .validateDestination [⟨.account address, answer⟩]
        (.destination ((Destination.judge h.form.asset address answer).map fun _ => ()))
        { h with form := { h.form with
            destination := .ofResult (Destination.judge h.form.asset address answer) } }
  | refuseCheck {e : AddressError} :
      Destination.ofString h.form.destinationInput = .error e →
      Move h .beginCheck [] (.begun (.error e))
        { h with form := { h.form with destination := .invalid e } }
  | beginCheck {address : String} :
      Destination.ofString h.form.destinationInput = .ok address →
      Move h .beginCheck [] (.begun (.ok (h.checks.length, address)))
        { h with
          form := { h.form with destination := .validating }
          checks := h.checks ++ [⟨h.form.generation, address, h.form.asset⟩] }
  | noCheck {n : Nat} : h.checks[n]? = none → Move h (.runCheck n) [] (.ran none) h
  | runCheck {n : Nat} {c : Check} {asked : Asked} {o : Outcome} :
      h.checks[n]? = some c → Runs c.run asked o →
      Move h (.runCheck n) asked (.ran (some h.outcomes.length))
        { h with outcomes := h.outcomes ++ [o] }
  | noOutcome {n : Nat} : h.outcomes[n]? = none → Move h (.applyOutcome n) [] (.applied none) h
  | applyOutcome {n : Nat} {o : Outcome} :
      h.outcomes[n]? = some o → o.generation = h.form.generation →
      Move h (.applyOutcome n) [] (.applied (some true))
        { h with form := { h.form with destination := .ofResult o.result } }
  | discard {n : Nat} {o : Outcome} :
      h.outcomes[n]? = some o → o.generation ≠ h.form.generation →
      Move h (.applyOutcome n) [] (.applied (some false)) h
  | request : Move h .request [] (.request h.form.request) h
  | notReady {e : WithdrawError} :
      h.form.request = .error e → Move h .submit [] (.submitted (.error e)) h
  | submit {request : Request} (answer : Except NetworkError Hash) :
      h.form.request = .ok request →
      Move h .submit [⟨.dispatch request, answer⟩]
        (.submitted ((answer.map fun transaction => ⟨request, transaction⟩).mapError .network)) h
  | refuseDestination {e : AddressError} {asked : Asked} {form : Form} :
      Runs h.form.validateDestination asked (.error e, form) →
      Move h .validateAndSubmit asked (.submitted (.error (.address e))) { h with form := form }
  | refuseAmount {address : String} {account : Account} {e : AmountError} :
      Destination.ofString h.form.destinationInput = .ok address → account.trusts h.form.asset →
      validateInput h.form.amountInput h.form.available = .error e →
      Move h .validateAndSubmit [⟨.account address, .ok account⟩] (.submitted (.error (.amount e)))
        { h with form := { h.form with destination := .valid address, amount := .invalid e } }
  | validateAndSubmit {address : String} {account : Account} {v : ValidAmount}
      (answer : Except NetworkError Hash) :
      Destination.ofString h.form.destinationInput = .ok address → account.trusts h.form.asset →
      validateInput h.form.amountInput h.form.available = .ok v →
      Move h .validateAndSubmit
        [⟨.account address, .ok account⟩,
          ⟨.dispatch ⟨address, v.amount, h.form.available⟩, answer⟩]
        (.submitted ((answer.map fun transaction =>
          ⟨⟨address, v.amount, h.form.available⟩, transaction⟩).mapError .network))
        { h with form := { h.form with destination := .valid address, amount := .valid v } }

theorem Move.of_silent {step : Step} {r r' : Result} {g : History} (hsilent : h.step step = .done (r', g))
    (hmove : Move h step [] r' g) (hr : Runs (h.step step) asked (r, h')) : Move h step asked r h' := by
  rw [hsilent] at hr
  obtain ⟨rfl, he⟩ := runs_done_iff.1 hr
  cases he
  exact hmove

theorem move_of_runs {step : Step} {r : Result} (hr : Runs (h.step step) asked (r, h')) :
    Move h step asked r h' := by
  cases step with
  | setBalance raw => exact .of_silent rfl (.setBalance raw) hr
  | editDestination input => exact .of_silent rfl (.editDestination input) hr
  | editAmount input => exact .of_silent rfl (.editAmount input) hr
  | reset => exact .of_silent rfl .reset hr
  | validateAmount => exact .of_silent rfl .validateAmount hr
  | validateDestination =>
    obtain ⟨⟨checked, form⟩, hd, he⟩ := runs_bind_done_iff.1 hr
    cases he
    rcases Form.runs_validateDestination hd with
      ⟨e, ha, rfl, rfl, rfl⟩ | ⟨address, answer, ha, rfl, rfl, rfl⟩
    · exact .refuse ha
    · exact .validate answer ha
  | beginCheck =>
    cases ha : Destination.ofString h.form.destinationInput with
    | error e => exact .of_silent (by simp only [step, Form.beginCheck, ha]; rfl) (.refuseCheck ha) hr
    | ok address => exact .of_silent (by simp only [step, Form.beginCheck, ha]; rfl) (.beginCheck ha) hr
  | runCheck n =>
    cases hc : h.checks[n]? with
    | none => exact .of_silent (by simp only [step, hc]; rfl) (.noCheck hc) hr
    | some c =>
      simp only [step, hc] at hr
      obtain ⟨o, hrun, he⟩ := runs_bind_done_iff.1 hr
      cases he
      exact .runCheck hc hrun
  | applyOutcome n =>
    cases ho : h.outcomes[n]? with
    | none => exact .of_silent (by simp only [step, ho]; rfl) (.noOutcome ho) hr
    | some o =>
      by_cases hg : o.generation = h.form.generation
      · exact .of_silent (by simp only [step, ho, Form.applyOutcome, if_pos hg]; rfl) (.applyOutcome ho hg) hr
      · exact .of_silent (by simp only [step, ho, Form.applyOutcome, if_neg hg]; rfl) (.discard ho hg) hr
  | request => exact .of_silent rfl .request hr
  | submit =>
    obtain ⟨receipt, hs, he⟩ := runs_bind_done_iff.1 hr
    cases he
    rcases Form.runs_submit hs with ⟨e, hq, rfl, rfl⟩ | ⟨request, answer, hq, rfl, rfl⟩
    · exact .notReady hq
    · exact .submit answer hq
  | validateAndSubmit =>
    obtain ⟨⟨receipt, form⟩, hs, he⟩ := runs_bind_done_iff.1 hr
    cases he
    rcases Form.runs_validateAndSubmit hs with ⟨e, hd, rfl⟩ | ⟨address, account, ha, ht, hrest⟩
    · exact .refuseDestination hd
    · rcases hrest with ⟨e, hv, rfl, rfl, rfl⟩ | ⟨v, answer, hv, rfl, rfl, rfl⟩
      · exact .refuseAmount ha ht hv
      · exact .validateAndSubmit answer ha ht hv

theorem Move.dispatched {step : Step} {r : Result} (hm : Move h step asked r h') {request : Request}
    {answer : Except NetworkError Hash} (hq : ⟨.dispatch request, answer⟩ ∈ asked) :
    (step = .submit ∨ step = .validateAndSubmit) ∧ h'.form.request = .ok request := by
  cases hm with
  | runCheck hc hrun =>
    rcases Check.runs_run hrun with ⟨e, -, rfl, -⟩ | ⟨address, answer, -, rfl, -⟩ <;> simp at hq
  | refuseDestination hd =>
    rcases Form.runs_validateDestination hd with ⟨e, -, rfl, -⟩ | ⟨address, answer, -, rfl, -⟩ <;>
      simp at hq
  | submit answer' hrequest =>
    simp only [List.mem_singleton, Sigma.mk.injEq, Query.dispatch.injEq] at hq
    exact ⟨.inl rfl, hq.1 ▸ hrequest⟩
  | validateAndSubmit answer' ha ht hv =>
    simp only [List.mem_cons, Sigma.mk.injEq, reduceCtorEq, Query.dispatch.injEq, false_and,
      false_or, List.not_mem_nil, or_false] at hq
    exact ⟨.inr rfl, hq.1 ▸ rfl⟩
  | _ => simp at hq

/-- A step that was taken: where it began, what was asked and answered, and where it led. -/
structure Turn where
  before : History
  step : Step
  asked : Asked
  result : Result
  after : History

/-- The histories of a form for an asset, each with the turns that led to it. -/
inductive Reached (asset : Asset) : List Turn → History → Prop
  | start : Reached asset [] (.start asset)
  | turn {turns : List Turn} {h h' : History} {step : Step} {asked : Asked} {result : Result} :
      Reached asset turns h → Runs (h.step step) asked (result, h') →
        Reached asset (turns ++ [⟨h, step, asked, result, h'⟩]) h'

theorem Reached.of_split {turns earlier later : List Turn} {t : Turn} (hr : Reached asset turns h)
    (hsplit : turns = earlier ++ t :: later) :
    Reached asset earlier t.before ∧ Runs (t.before.step t.step) t.asked (t.result, t.after) ∧
      Reached asset (earlier ++ [t]) t.after := by
  induction hr generalizing later with
  | start => simp at hsplit
  | turn hprior hrun ih =>
    rcases split_concat hsplit with ⟨rfl, rfl, -⟩ | ⟨init, -, hinit⟩
    · exact ⟨hprior, hrun, hprior.turn hrun⟩
    · exact ih hinit

def take (answer : (q : Query) → Answer q) (h : History) (step : Step) : Turn :=
  let run := (h.step step).answered answer
  ⟨h, step, run.1, run.2.1, run.2.2⟩

def play (answer : (q : Query) → Answer q) : History → List Step → List Turn × History
  | h, [] => ([], h)
  | h, step :: steps =>
    let turn := take answer h step
    let rest := play answer turn.after steps
    (turn :: rest.1, rest.2)

theorem Reached.play {turns : List Turn} (hr : Reached asset turns h)
    (answer : (q : Query) → Answer q) (steps : List Step) :
    Reached asset (turns ++ (play answer h steps).1) (play answer h steps).2 := by
  induction steps generalizing turns h with
  | nil => simpa [History.play] using hr
  | cons step steps ih =>
    have hturn := hr.turn (Dialogue.runs_answered answer (h.step step))
    simpa [History.play, take] using ih hturn

theorem Reached.of_play (answer : (q : Query) → Answer q) (steps : List Step) :
    Reached asset (History.play answer (.start asset) steps).1
      (History.play answer (.start asset) steps).2 := by
  have hstart : Reached asset [] (.start asset) := .start
  simpa using hstart.play answer steps

def agreeable : (q : Query) → Answer q
  | .account id => .ok ⟨id, [⟨"credit_alphanum4", some "TFT", some "GISSUER", "0"⟩]⟩
  | .dispatch _ => .ok (Hash.repeated 0x11)

def fiveTokens : Word := ⟨50000000, by decide⟩

def payout : List Turn × History :=
  play agreeable (.start ⟨"TFT", "GISSUER"⟩)
    [.setBalance fiveTokens, .editDestination " GDEST ", .editAmount "2.50",
      .validateAndSubmit]

theorem reached_payout : Reached ⟨"TFT", "GISSUER"⟩ payout.1 payout.2 :=
  Reached.of_play _ _

end History
end TokenBridge.Withdrawal
