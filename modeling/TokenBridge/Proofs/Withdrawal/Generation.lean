import TokenBridge.Proofs.Withdrawal.DestinationField

namespace TokenBridge.Withdrawal

open Stellar (Asset)
open Dialogue (Runs)

theorem Check.generation_of_runs {c : Check} {asked : Asked} {o : Outcome} (h : Runs c.run asked o) :
    o.generation = c.generation := by
  rcases runs_run h with ⟨e, -, -, rfl⟩ | ⟨address, answer, -, -, rfl⟩ <;> rfl

namespace History

variable {asset : Asset} {turns : List Turn} {h h' : History} {step : Step} {asked : Asked} {r : Result}

theorem Move.generation (hm : Move h step asked r h') :
    h'.form.generation = h.form.generation + if step.editsDestination then 1 else 0 := by
  cases hm with
  | reset => exact Form.reset_generation h.form
  | refuseDestination hd =>
    rcases Form.runs_validateDestination hd with ⟨e, -, -, -, rfl⟩ | ⟨address, answer, -, -, -, rfl⟩ <;>
      rfl
  | _ => rfl

theorem Reached.generation (hr : Reached asset turns h) :
    h.form.generation = turns.countP fun t => t.step.editsDestination := by
  induction hr with
  | start => rfl
  | turn _ hrun ih =>
    rw [(move_of_runs hrun).generation, ih, List.countP_append, List.countP_singleton]

theorem Move.check_kept (hm : Move h step asked r h') {n : Nat} {c : Check}
    (hc : h.checks[n]? = some c) : h'.checks[n]? = some c := by
  cases hm with
  | beginCheck ha => exact (List.getElem?_append_left (List.getElem?_eq_some_iff.1 hc).1).trans hc
  | _ => exact hc

theorem Move.outcome_kept (hm : Move h step asked r h') {k : Nat} {o : Outcome}
    (ho : h.outcomes[k]? = some o) : h'.outcomes[k]? = some o := by
  cases hm with
  | runCheck hc hrun => exact (List.getElem?_append_left (List.getElem?_eq_some_iff.1 ho).1).trans ho
  | _ => exact ho

theorem Reached.since {P : History → Prop}
    (hkeep : ∀ {g g' step asked r}, Move g step asked r g' → P g → P g')
    (hr : Reached asset turns h) {earlier later : List Turn} {t : Turn}
    (hsplit : turns = earlier ++ t :: later) (ht : P t.after) : P h := by
  induction hr generalizing later with
  | start => simp at hsplit
  | turn _ hrun ih =>
    rcases split_concat hsplit with ⟨-, rfl, -⟩ | ⟨init, -, hinit⟩
    · exact ht
    · exact hkeep (move_of_runs hrun) (ih hinit)

theorem Move.check_of_begun {n : Nat} {address : String}
    (hm : Move h .beginCheck asked (.begun (.ok (n, address))) h') :
    h'.checks[n]? = some ⟨h.form.generation, address, h.form.asset⟩ := by
  cases hm with
  | beginCheck ha => simp

theorem Move.outcome_of_ran {n k : Nat} (hm : Move h (.runCheck n) asked (.ran (some k)) h') :
    ∃ c o, h.checks[n]? = some c ∧ Runs c.run asked o ∧ h'.outcomes[k]? = some o := by
  cases hm with
  | @runCheck _ c _ o hc hrun => exact ⟨c, o, hc, hrun, by simp⟩

theorem step_applyOutcome {k : Nat} {o : Outcome} (ho : h.outcomes[k]? = some o) :
    h.step (.applyOutcome k) =
      if o.generation = h.form.generation then
        .done (.applied (some true), { h with form := { h.form with destination := .ofResult o.result } })
      else .done (.applied (some false), h) := by
  simp only [History.step, ho, Form.applyOutcome]
  split <;> rfl

theorem Reached.outcome_of_split (hr : Reached asset turns h) {earlier between : List Turn} {b ran : Turn}
    {n k : Nat} {address : String} (hsplit : turns = earlier ++ b :: between)
    (hb : b.step = .beginCheck) (hbegun : b.result = .begun (.ok (n, address))) (hmem : ran ∈ between)
    (hstep : ran.step = .runCheck n) (hran : ran.result = .ran (some k)) :
    ∃ o, h.outcomes[k]? = some o ∧
      Runs (Check.run ⟨b.before.form.generation, address, asset⟩) ran.asked o := by
  obtain ⟨mid, later, rfl⟩ := List.append_of_mem hmem
  have hsplit' : turns = (earlier ++ b :: mid) ++ ran :: later := by simpa using hsplit
  obtain ⟨hprior, hrun, -⟩ := hr.of_split hsplit'
  obtain ⟨hbefore, hbeginning, -⟩ := hprior.of_split rfl
  have hbegin := move_of_runs hbeginning
  rw [hb, hbegun] at hbegin
  have hrunning := move_of_runs hrun
  rw [hstep, hran] at hrunning
  obtain ⟨c, o, hc, hrunc, ho⟩ := hrunning.outcome_of_ran
  have hcheck : ran.before.checks[n]? = some ⟨b.before.form.generation, address, asset⟩ := by
    refine hprior.since (P := fun g => g.checks[n]? = _) (fun hm => hm.check_kept) rfl ?_
    rw [hbegin.check_of_begun, hbefore.linked.asset_eq]
  rw [hcheck] at hc
  cases hc
  exact ⟨o, hr.since (P := fun g => g.outcomes[k]? = _) (fun hm => hm.outcome_kept) hsplit' ho, hrunc⟩

theorem Reached.generation_eq_iff (hr : Reached asset turns h) {earlier between : List Turn} {b : Turn}
    (hsplit : turns = earlier ++ b :: between) (hb : b.step = .beginCheck) :
    b.before.form.generation = h.form.generation ↔
      ∀ t ∈ between, t.step.editsDestination = false := by
  obtain ⟨hbefore, -⟩ := hr.of_split hsplit
  have hnone : b.step.editsDestination = false := by rw [hb]; rfl
  rw [hr.generation, hbefore.generation, hsplit, List.countP_append, List.countP_cons_of_neg (by simp [hnone]),
    Nat.left_eq_add, List.countP_eq_zero]
  simp

theorem Reached.awaited (hr : Reached asset turns h) (hd : h.form.destination = .validating) :
    ∃ (n : Nat) (c : Check), h.checks[n]? = some c ∧ c.generation = h.form.generation := by
  induction hr with
  | start => cases hd
  | @turn turns h h' step asked result _ hrun ih =>
    cases move_of_runs hrun with
    | @beginCheck address ha => exact ⟨h.checks.length, _, List.getElem?_concat_length .., rfl⟩
    | editDestination input => cases hd
    | reset =>
      rw [Form.reset_destination] at hd
      cases hd
    | refuse he => cases hd
    | refuseCheck he => cases hd
    | validate answer ha =>
      cases hj : Stellar.Destination.judge h.form.asset _ answer <;> simp [hj, Field.ofResult] at hd
    | @applyOutcome n o ho hgeneration =>
      cases hres : o.result <;> simp [hres, Field.ofResult] at hd
    | refuseDestination hrefuse =>
      rw [Form.eq_of_runs_validateDestination_error hrefuse] at hd
      cases hd
    | refuseAmount ha ht hv => cases hd
    | validateAndSubmit answer ha ht hv => cases hd
    | _ => exact ih hd

theorem outcome_accepted_iff_unedited (hr : Reached asset turns h) :
    (h.form.generation = turns.countP fun t => t.step.editsDestination) ∧
      (∀ earlier b between n address, turns = earlier ++ b :: between →
        b.step = .beginCheck → b.result = .begun (.ok (n, address)) →
        ∀ ran ∈ between, ∀ k, ran.step = .runCheck n → ran.result = .ran (some k) →
          ∃ o accepted h', Runs (Check.run ⟨b.before.form.generation, address, asset⟩) ran.asked o ∧
            h.step (.applyOutcome k) = .done (.applied (some accepted), h') ∧
            (accepted = true ↔ ∀ t ∈ between, t.step.editsDestination = false) ∧
            (accepted = false → h' = h) ∧
            (accepted = true →
              h' = { h with form := { h.form with destination := .ofResult o.result } })) ∧
      (h.form.destination = .validating →
        ∃ b ∈ turns, ∃ n address, b.step = .beginCheck ∧ b.result = .begun (.ok (n, address)) ∧
          ∀ asked r h', Runs (h.step (.runCheck n)) asked (r, h') →
            ∃ (k : Nat) (o : Outcome), r = .ran (some k) ∧
              h'.step (.applyOutcome k) = .done (.applied (some true),
                { h' with form := { h'.form with destination := .ofResult o.result } })) := by
  refine ⟨hr.generation, ?_, fun hd => ?_⟩
  · intro earlier b between n address hsplit hb hbegun ran hmem k hstep hran
    obtain ⟨o, ho, hrunc⟩ := hr.outcome_of_split hsplit hb hbegun hmem hstep hran
    have hcurrent : o.generation = h.form.generation ↔
        ∀ t ∈ between, t.step.editsDestination = false := by
      rw [Check.generation_of_runs hrunc]
      exact hr.generation_eq_iff hsplit hb
    by_cases hg : o.generation = h.form.generation
    · exact ⟨o, true, _, hrunc, (step_applyOutcome ho).trans (if_pos hg),
        ⟨fun _ => hcurrent.1 hg, fun _ => rfl⟩, by simp, fun _ => rfl⟩
    · exact ⟨o, false, h, hrunc, (step_applyOutcome ho).trans (if_neg hg),
        ⟨by simp, fun hall => absurd (hcurrent.2 hall) hg⟩, fun _ => rfl, by simp⟩
  · obtain ⟨n, c, hc, hgeneration⟩ := hr.awaited hd
    obtain ⟨-, -, b, hb, hstep, hresult⟩ := hr.linked.check n c hc hgeneration
    refine ⟨b, (List.rtakeWhile_suffix _ turns).subset hb, n, c.address, hstep, hresult, ?_⟩
    intro asked r h' hrun
    cases move_of_runs hrun with
    | noCheck hnone =>
      rw [hnone] at hc
      cases hc
    | @runCheck _ c' _ o hc' hrunc =>
      rw [hc] at hc'
      cases hc'
      have hg := (Check.generation_of_runs hrunc).trans hgeneration
      exact ⟨h.outcomes.length, o, rfl,
        (step_applyOutcome (List.getElem?_concat_length ..)).trans (if_pos hg)⟩

theorem outcome_accepted_overtaken :
    Reached ⟨"TFT", "GISSUER"⟩ overtaken.1 overtaken.2 ∧
      overtaken.2.step (.applyOutcome 0) = .done (.applied (some false), overtaken.2) ∧
      ∃ h', overtaken.2.step (.applyOutcome 1) = .done (.applied (some true), h') := by
  obtain ⟨-, hdecided, -⟩ := outcome_accepted_iff_unedited reached_overtaken
  have hedited : ¬ ∀ t ∈ overtaken.1.drop 2, t.step.editsDestination = false := by decide +kernel
  have hunedited : ∀ t ∈ overtaken.1.drop 4, t.step.editsDestination = false := by decide +kernel
  obtain ⟨-, early, h', -, hearly, hiff, hsame, -⟩ :=
    hdecided (overtaken.1.take 1) _ (overtaken.1.drop 2) 0 "GOLD" rfl rfl rfl
      _ (List.mem_of_getElem? (i := 2) rfl) 0 rfl rfl
  obtain ⟨-, late, h'', -, hlate, hiff', -, -⟩ :=
    hdecided (overtaken.1.take 3) _ (overtaken.1.drop 4) 1 "GNEW" rfl rfl rfl
      _ (List.mem_of_getElem? (i := 3) rfl) 1 rfl rfl
  have hfalse : early = false := Bool.eq_false_iff.2 fun hearly => hedited (hiff.1 hearly)
  have htrue : late = true := hiff'.2 hunedited
  refine ⟨reached_overtaken, ?_, h'', ?_⟩
  · rw [hearly, hfalse, hsame hfalse]
  · rw [hlate, htrue]

end History
end TokenBridge.Withdrawal
