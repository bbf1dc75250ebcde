import TokenBridge.Proofs.Withdrawal.History

namespace TokenBridge.Withdrawal

open Dialogue (Runs)
open Stellar (Account AddressError Asset Lookup TrustLine)
open Stellar.Destination (Verdict validate)

variable {asked : Asked} {f : Form} {c : Check} {id : String} {answer : Lookup} {o : Outcome}

theorem runs_lookup_iff : Runs (lookup id) asked answer ↔ asked = [⟨.account id, answer⟩] := by
  simp only [lookup, Dialogue.runs_ask_iff, Dialogue.runs_done_iff]
  constructor
  · rintro ⟨_, _, rfl, rfl, rfl⟩
    rfl
  · rintro rfl
    exact ⟨answer, [], rfl, rfl, rfl⟩

theorem Check.runs_run_iff (htrim : Text.trim c.address = c.address) (hne : c.address ≠ "") :
    Runs c.run asked o ↔
      o.generation = c.generation ∧
        ∃ answer, asked = [⟨.account c.address, answer⟩] ∧ Verdict c.asset c.address answer o.result := by
  have hvalidate : ∀ asked result, Runs (validate lookup c.asset c.address) asked result ↔
      ∃ answer, asked = [⟨.account c.address, answer⟩] ∧ Verdict c.asset c.address answer result := by
    intro asked result
    rw [Stellar.Destination.runs_validate_iff (htrim.symm ▸ hne), htrim]
    simp only [runs_lookup_iff]
  simp only [Check.run, Dialogue.pure_eq_done, Dialogue.runs_bind_iff, Dialogue.runs_done_iff, hvalidate]
  constructor
  · rintro ⟨_, result, _, rfl, ⟨answer, rfl, hverdict⟩, rfl, rfl⟩
    exact ⟨rfl, answer, rfl, hverdict⟩
  · rintro ⟨hgeneration, answer, rfl, hverdict⟩
    refine ⟨_, o.result, [], rfl, ⟨answer, rfl, hverdict⟩, rfl, ?_⟩
    rw [← hgeneration]

theorem Form.beginCheck_of_blank (h : Text.trim f.destinationInput = "") : f.beginCheck.1 = .error .empty := by
  rw [beginCheck, Stellar.Destination.ofString_eq_error_iff.2 ⟨h, rfl⟩]

theorem Form.beginCheck_of_not_blank (h : Text.trim f.destinationInput ≠ "") :
    f.beginCheck.1 = .ok ⟨f.generation, Text.trim f.destinationInput, f.asset⟩ := by
  rw [beginCheck, Stellar.Destination.ofString_eq_ok_iff.2 ⟨rfl, h⟩]

theorem Check.run_eq_validate (generation : ℕ) (asset : Asset) (s : String) :
    Check.run ⟨generation, Text.trim s, asset⟩ =
      validate lookup asset s >>= fun result => .done ⟨generation, result⟩ := by
  rw [Check.run, Stellar.Destination.validate_congr (Text.trim_trim s)]
  rfl

theorem destination_judged_by_one_lookup {Query : Type} {Answer : Query → Type}
    (ask : String → Dialogue Query Answer Lookup) (asset : Asset) (s : String) :
    (Text.trim s = "" → ∀ asked result,
      Runs (validate ask asset s) asked result ↔ asked = [] ∧ result = .error .empty) ∧
    (Text.trim s ≠ "" → ∀ asked result,
      Runs (validate ask asset s) asked result ↔
        ∃ answer, Runs (ask (Text.trim s)) asked answer ∧ Verdict asset (Text.trim s) answer result) ∧
    (∀ answer, (∃! result, Verdict asset (Text.trim s) answer result) ∧
      ¬ Verdict asset (Text.trim s) answer (.error .empty)) ∧
    (∀ t, Text.Padded s t → validate ask asset t = validate ask asset s) ∧
    (∀ account account' result, account.lines.Perm account'.lines →
      (Verdict asset (Text.trim s) (.ok account) result ↔ Verdict asset (Text.trim s) (.ok account') result)) ∧
    ∀ f : Form, f.asset = asset → f.destinationInput = s →
      (Text.trim s = "" → f.beginCheck.1 = .error .empty) ∧
      (Text.trim s ≠ "" → ∃ c, f.beginCheck.1 = .ok c ∧
        c.run = (validate lookup asset s >>= fun result => .done ⟨f.generation, result⟩) ∧
        ∀ asked o, Runs c.run asked o ↔
          o.generation = f.generation ∧
            ∃ answer, asked = [⟨.account (Text.trim s), answer⟩] ∧ Verdict asset (Text.trim s) answer o.result) := by
  refine ⟨fun hblank asked result => ?_, fun hs asked result => Stellar.Destination.runs_validate_iff hs,
    fun answer => ⟨?_, fun h => h.ne_empty rfl⟩, fun t ht => Stellar.Destination.validate_congr ht.trim_eq, ?_, ?_⟩
  · rw [Stellar.Destination.validate_of_blank hblank, Dialogue.runs_done_iff]
  · simp only [Stellar.Destination.verdict_iff]
    exact existsUnique_eq
  · intro account account' result hlines
    exact ⟨Verdict.of_perm hlines, Verdict.of_perm hlines.symm⟩
  · rintro f rfl rfl
    refine ⟨Form.beginCheck_of_blank, fun hs => ⟨_, Form.beginCheck_of_not_blank hs, ?_, fun asked o => ?_⟩⟩
    · exact Check.run_eq_validate _ _ _
    · exact Check.runs_run_iff (Text.trim_trim _) hs

def halves : List TrustLine :=
  [⟨"credit_alphanum4", some "TFT", some "GX", "1.0"⟩, ⟨"native", none, none, "5.0"⟩,
    ⟨"credit_alphanum4", some "EURT", some "GI", ""⟩]

def whole : TrustLine :=
  ⟨"credit_alphanum4", some "TFT", some "GI", "0"⟩

theorem destination_judged_by_one_lookup_halves :
    let asset : Asset := ⟨"TFT", "GI"⟩
    let form := (Form.new asset).editDestination "\u00a0GDEST\n"
    validate lookup asset "\u00a0GDEST\n" = validate lookup asset "GDEST" ∧
      (∃ c, form.beginCheck.1 = .ok c ∧
        Runs c.run [⟨.account "GDEST", .ok ⟨"GDEST", halves⟩⟩] ⟨1, .error (.missingTrustLine "GDEST" "TFT")⟩) ∧
      Runs (validate lookup asset "GDEST") [⟨.account "GDEST", .ok ⟨"GDEST", halves ++ [whole]⟩⟩] (.ok "GDEST") := by
  intro asset form
  have htrim : Text.trim "GDEST" = "GDEST" := by decide
  have hform : Text.trim "\u00a0GDEST\n" = "GDEST" := by decide
  obtain ⟨-, hasks, -, hpadded, hperm, -⟩ := destination_judged_by_one_lookup lookup asset "GDEST"
  obtain ⟨-, -, -, -, -, hbegin⟩ := destination_judged_by_one_lookup lookup asset "\u00a0GDEST\n"
  rw [htrim] at hasks hperm
  rw [hform] at hbegin
  refine ⟨hpadded _ ⟨['\u00a0'], ['\n'], by decide, List.all_eq_true.1 rfl⟩, ?_, ?_⟩
  · obtain ⟨c, hc, -, hruns⟩ := (hbegin form rfl rfl).2 (by decide)
    exact ⟨c, hc, (hruns _ _).2 ⟨rfl, _, rfl, .untrusted (by decide)⟩⟩
  · refine (hasks (by decide) _ _).2 ⟨_, runs_lookup_iff.2 rfl, (hperm ⟨"GDEST", whole :: halves⟩ _ _ ?_).1 ?_⟩
    · exact (List.perm_append_singleton whole halves).symm
    · exact .trusted List.mem_cons_self rfl rfl

end TokenBridge.Withdrawal
