import TokenBridge.Proofs.Dialogue
import TokenBridge.Proofs.Text.Trim
import TokenBridge.Stellar.Destination

namespace TokenBridge.Stellar

theorem TrustLine.isFor_iff {line : TrustLine} {asset : Asset} :
    line.isFor asset ↔ line.assetCode = some asset.code ∧ line.assetIssuer = some asset.issuer := by
  simp [TrustLine.isFor]

theorem Account.trusts_iff {account : Account} {asset : Asset} :
    account.trusts asset ↔ ∃ line ∈ account.lines,
      line.assetCode = some asset.code ∧ line.assetIssuer = some asset.issuer := by
  simp only [Account.trusts, List.any_eq_true, TrustLine.isFor_iff]

namespace Destination

theorem ofString_eq_error_iff {s : String} {e : AddressError} :
    ofString s = .error e ↔ Text.trim s = "" ∧ e = .empty := by
  unfold ofString
  by_cases h : Text.trim s = ""
  · simp [h, eq_comm]
  · simp [h]

theorem ofString_eq_ok_iff {s address : String} :
    ofString s = .ok address ↔ address = Text.trim s ∧ address ≠ "" := by
  unfold ofString
  by_cases h : Text.trim s = ""
  · simp only [h, ↓reduceIte, reduceCtorEq, false_iff, not_and, not_not]
    exact fun ha => ha
  · simp only [h, ↓reduceIte, Except.ok.injEq]
    constructor
    · rintro rfl
      exact ⟨rfl, h⟩
    · rintro ⟨rfl, -⟩
      rfl

theorem ofString_of_ofString {s address : String} (h : ofString s = .ok address) :
    ofString address = .ok address := by
  obtain ⟨rfl, hne⟩ := ofString_eq_ok_iff.1 h
  exact ofString_eq_ok_iff.2 ⟨(Text.trim_trim s).symm, hne⟩

theorem judge_eq_ok_iff {asset : Asset} {address a : String} {answer : Lookup} :
    judge asset address answer = .ok a ↔
      a = address ∧ ∃ account, answer = .ok account ∧ account.trusts asset := by
  cases answer with
  | error e => simp [judge]
  | ok account =>
    rw [judge]
    split
    · next h =>
      constructor
      · rintro ⟨⟩
        exact ⟨rfl, account, rfl, h⟩
      · rintro ⟨rfl, -⟩
        rfl
    · next h =>
      constructor
      · rintro ⟨⟩
      · rintro ⟨-, account', hok, ht⟩
        cases hok
        exact absurd ht h

theorem judge_of_trusts {asset : Asset} {address : String} {account : Account}
    (ht : account.trusts asset) : judge asset address (.ok account) = .ok address :=
  judge_eq_ok_iff.2 ⟨rfl, account, rfl, ht⟩

theorem judge_eq_error {asset : Asset} {address : String} {answer : Lookup} {e : AddressError}
    (h : judge asset address answer = .error e) :
    e = .accountNotFound address ∨ e = .missingTrustLine address asset.code := by
  cases answer with
  | error fault =>
    left
    cases h
    rfl
  | ok account =>
    right
    rw [judge] at h
    split at h
    · cases h
    · cases h
      rfl

/-- What is said of an address, by the answer of its lookup. -/
inductive Verdict (asset : Asset) (address : String) : Lookup → Except AddressError String → Prop
  | notFound {fault : NetworkError} : Verdict asset address (.error fault) (.error (.accountNotFound address))
  | trusted {account : Account} {line : TrustLine} : line ∈ account.lines →
      line.assetCode = some asset.code → line.assetIssuer = some asset.issuer →
      Verdict asset address (.ok account) (.ok address)
  | untrusted {account : Account} :
      (∀ line ∈ account.lines, line.assetCode = some asset.code → line.assetIssuer ≠ some asset.issuer) →
      Verdict asset address (.ok account) (.error (.missingTrustLine address asset.code))

section Verdict

variable {asset : Asset} {s t address : String} {answer : Lookup} {account account' : Account}
  {result : Except AddressError String}

theorem verdict_judge (asset : Asset) (address : String) (answer : Lookup) :
    Verdict asset address answer (judge asset address answer) := by
  cases answer with
  | error fault => exact .notFound
  | ok account =>
    rw [judge]
    split
    · next h =>
      obtain ⟨line, hline, hcode, hissuer⟩ := Account.trusts_iff.1 h
      exact .trusted hline hcode hissuer
    · next h =>
      exact .untrusted fun line hline hcode hissuer => h (Account.trusts_iff.2 ⟨line, hline, hcode, hissuer⟩)

theorem verdict_iff : Verdict asset address answer result ↔ result = judge asset address answer := by
  constructor
  · intro h
    cases h with
    | notFound => rfl
    | trusted hline hcode hissuer => exact (judge_of_trusts (Account.trusts_iff.2 ⟨_, hline, hcode, hissuer⟩)).symm
    | untrusted hnone =>
      rw [judge, if_neg]
      intro htrusts
      obtain ⟨line, hline, hcode, hissuer⟩ := Account.trusts_iff.1 htrusts
      exact hnone line hline hcode hissuer
  · rintro rfl
    exact verdict_judge asset address answer

theorem Verdict.ne_empty (h : Verdict asset address answer result) : result ≠ .error .empty := by
  cases h <;> rintro ⟨⟩

theorem Verdict.of_perm (hlines : account.lines.Perm account'.lines)
    (h : Verdict asset address (.ok account) result) : Verdict asset address (.ok account') result := by
  cases h with
  | trusted hline hcode hissuer => exact .trusted (hlines.subset hline) hcode hissuer
  | untrusted hnone => exact .untrusted fun line hline => hnone line (hlines.symm.subset hline)

end Verdict

section Validate

variable {Query : Type} {Answer : Query → Type} {ask : String → Dialogue Query Answer Lookup} {asset : Asset}
  {s t : String} {asked : List (Exchange Query Answer)} {result : Except AddressError String}

theorem validate_of_blank (h : Text.trim s = "") : validate ask asset s = .done (.error .empty) := by
  rw [validate, ofString_eq_error_iff.2 ⟨h, rfl⟩]
  rfl

theorem validate_of_not_blank (h : Text.trim s ≠ "") :
    validate ask asset s = ask (Text.trim s) >>= fun answer => .done (judge asset (Text.trim s) answer) := by
  rw [validate, ofString_eq_ok_iff.2 ⟨rfl, h⟩]
  rfl

theorem runs_validate_iff (h : Text.trim s ≠ "") :
    Dialogue.Runs (validate ask asset s) asked result ↔
      ∃ answer, Dialogue.Runs (ask (Text.trim s)) asked answer ∧ Verdict asset (Text.trim s) answer result := by
  simp only [validate_of_not_blank h, Dialogue.runs_bind_iff, Dialogue.runs_done_iff, verdict_iff]
  constructor
  · rintro ⟨first, answer, second, rfl, hr, rfl, rfl⟩
    exact ⟨answer, by simpa using hr, rfl⟩
  · rintro ⟨answer, hr, rfl⟩
    exact ⟨asked, answer, [], by simp, hr, rfl, rfl⟩

theorem of_runs_validate_ok {a : String} (hr : Dialogue.Runs (validate ask asset s) asked (.ok a)) :
    a = Text.trim s ∧ ∃ account, Dialogue.Runs (ask a) asked (.ok account) ∧ account.trusts asset := by
  by_cases hs : Text.trim s = ""
  · rw [validate_of_blank hs] at hr
    cases hr
  · obtain ⟨answer, hask, hverdict⟩ := (runs_validate_iff hs).1 hr
    obtain ⟨rfl, account, rfl, htrusts⟩ := judge_eq_ok_iff.1 (verdict_iff.1 hverdict).symm
    exact ⟨rfl, account, hask, htrusts⟩

theorem validate_congr (h : Text.trim t = Text.trim s) : validate ask asset t = validate ask asset s := by
  rw [validate, ofString, h, validate, ofString]

end Validate

end Destination
end TokenBridge.Stellar
