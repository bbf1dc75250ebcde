import Mathlib.Data.List.DropRight
import TokenBridge.Proofs.Withdrawal.History

namespace TokenBridge.Withdrawal

open Stellar (Asset AddressError Account Lookup Destination.ofString Destination.judge)
open Dialogue (Runs)

def Step.editsDestination : Step → Bool
  | .editDestination _ => true
  | .reset => true
  | _ => false

def lookups (asked : Asked) : List (String × Lookup) :=
  asked.filterMap fun
    | ⟨.account id, answer⟩ => some (id, answer)
    | ⟨.dispatch _, _⟩ => none

namespace History

def sinceEdit (turns : List Turn) : List Turn :=
  turns.rtakeWhile fun t => !t.step.editsDestination

/-- Among some turns a check was begun and run, and its single lookup was of this address and got this
answer. -/
inductive LookedUp (turns : List Turn) (address : String) (answer : Lookup) : Prop
  | apart {earlier between later : List Turn} {begun ran : Turn} {n : Nat} :
      turns = earlier ++ begun :: between ++ ran :: later →
      begun.step = .beginCheck → begun.result = .begun (.ok (n, address)) →
      ran.step = .runCheck n → lookups ran.asked = [(address, answer)] →
      LookedUp turns address answer
  | atOnce {t : Turn} :
      t ∈ turns → t.step = .validateDestination ∨ t.step = .validateAndSubmit →
      lookups t.asked = [(address, answer)] → LookedUp turns address answer

def Founded (asset : Asset) (turns : List Turn) (input : String) (r : Except AddressError String) :
    Prop :=
  (∃ e, Destination.ofString input = .error e ∧ r = .error e) ∨
    ∃ address answer, Destination.ofString input = .ok address ∧ LookedUp turns address answer ∧
      r = Destination.judge asset address answer

variable {asset : Asset} {turns recent : List Turn} {t : Turn} {input : String}

theorem sinceEdit_concat (ht : t.step.editsDestination = false) :
    sinceEdit (turns ++ [t]) = sinceEdit turns ++ [t] := by
  rw [sinceEdit, List.rtakeWhile_concat_pos]
  · rfl
  · simp [ht]

theorem LookedUp.concat {address : String} {answer : Lookup} (hl : LookedUp recent address answer)
    (t : Turn) : LookedUp (recent ++ [t]) address answer := by
  cases hl with
  | @apart earlier between later begun ran n hsplit hb hbegun hran hlookup =>
    have hsplit' : recent ++ [t] = earlier ++ begun :: between ++ ran :: (later ++ [t]) := by
      simp [hsplit]
    exact .apart hsplit' hb hbegun hran hlookup
  | atOnce ht hstep hlookup => exact .atOnce (List.mem_append_left _ ht) hstep hlookup

theorem Founded.concat {r : Except AddressError String} (hr : Founded asset recent input r) (t : Turn) :
    Founded asset (recent ++ [t]) input r := by
  rcases hr with hblank | ⟨address, answer, ha, hl, hj⟩
  · exact .inl hblank
  · exact .inr ⟨address, answer, ha, hl.concat t, hj⟩

theorem Founded.of_ok {a : String} (hr : Founded asset recent input (.ok a)) :
    a = Text.trim input ∧ a ≠ "" ∧
      ∃ account, LookedUp recent a (.ok account) ∧ account.trusts asset := by
  rcases hr with ⟨e, -, he⟩ | ⟨address, answer, ha, hl, hj⟩
  · cases he
  · obtain ⟨rfl, account, rfl, htrusts⟩ := Stellar.Destination.judge_eq_ok_iff.1 hj.symm
    obtain ⟨htrim, hne⟩ := Stellar.Destination.ofString_eq_ok_iff.1 ha
    exact ⟨htrim, hne, account, hl, htrusts⟩

theorem Founded.of_error {e : AddressError} (hr : Founded asset recent input (.error e)) :
    (Text.trim input = "" ∧ e = .empty) ∨ e = .accountNotFound (Text.trim input) ∨
      e = .missingTrustLine (Text.trim input) asset.code := by
  rcases hr with ⟨e', hblank, he⟩ | ⟨address, answer, ha, -, hj⟩
  · cases he
    exact .inl (Stellar.Destination.ofString_eq_error_iff.1 hblank)
  · obtain ⟨rfl, -⟩ := Stellar.Destination.ofString_eq_ok_iff.1 ha
    exact .inr (Stellar.Destination.judge_eq_error hj.symm)

structure Linked (asset : Asset) (turns : List Turn) (h : History) : Prop where
  asset_eq : h.form.asset = asset
  check_le : ∀ c ∈ h.checks, c.generation ≤ h.form.generation
  check : ∀ n c, h.checks[n]? = some c → c.generation = h.form.generation →
    c.asset = asset ∧ Destination.ofString h.form.destinationInput = .ok c.address ∧
      ∃ t ∈ sinceEdit turns, t.step = .beginCheck ∧ t.result = .begun (.ok (n, c.address))
  outcome_le : ∀ o ∈ h.outcomes, o.generation ≤ h.form.generation
  outcome : ∀ o ∈ h.outcomes, o.generation = h.form.generation →
    Founded asset (sinceEdit turns) h.form.destinationInput o.result
  field : ∀ r, h.form.destination = .ofResult r →
    Founded asset (sinceEdit turns) h.form.destinationInput r

variable {h h' : History}

theorem linked_start (asset : Asset) : Linked asset [] (.start asset) where
  asset_eq := rfl
  check_le := by simp [start]
  check := by simp [start]
  outcome_le := by simp [start]
  outcome := by simp [start]
  field r hr := by
    cases r <;> simp [start, Form.new, Field.ofResult] at hr

theorem Linked.edit (hl : Linked asset turns h) (t : Turn) (form : Form)
    (hasset : form.asset = h.form.asset) (hgeneration : form.generation = h.form.generation + 1)
    (hfield : form.destination = .empty) : Linked asset (turns ++ [t]) { h with form := form } where
  asset_eq := hasset.trans hl.asset_eq
  check_le c hc := (hl.check_le c hc).trans (hgeneration ▸ Nat.le_succ _)
  check n c hc heq := by
    have := hl.check_le c (List.mem_of_getElem? hc)
    simp only [hgeneration] at heq
    omega
  outcome_le o ho := (hl.outcome_le o ho).trans (hgeneration ▸ Nat.le_succ _)
  outcome o ho heq := by
    have := hl.outcome_le o ho
    simp only [hgeneration] at heq
    omega
  field r hr := by
    rw [hfield] at hr
    cases r <;> simp [Field.ofResult] at hr

structure Extends (asset : Asset) (recent : List Turn) (t : Turn) (h h' : History) : Prop where
  asset_eq : h'.form.asset = h.form.asset
  generation : h'.form.generation = h.form.generation
  input : h'.form.destinationInput = h.form.destinationInput
  check : h'.checks = h.checks ∨ ∃ address,
    h'.checks = h.checks ++ [⟨h.form.generation, address, h.form.asset⟩] ∧
      Destination.ofString h.form.destinationInput = .ok address ∧
      t.step = .beginCheck ∧ t.result = .begun (.ok (h.checks.length, address))
  outcome : h'.outcomes = h.outcomes ∨ ∃ o, h'.outcomes = h.outcomes ++ [o] ∧
    o.generation ≤ h.form.generation ∧
      (o.generation = h.form.generation →
        Founded asset (recent ++ [t]) h.form.destinationInput o.result)
  field : ∀ r, h'.form.destination = .ofResult r → h.form.destination = .ofResult r ∨
    Founded asset (recent ++ [t]) h.form.destinationInput r

theorem Linked.extend (hl : Linked asset turns h) (ht : t.step.editsDestination = false)
    (he : Extends asset (sinceEdit turns) t h h') : Linked asset (turns ++ [t]) h' where
  asset_eq := he.asset_eq.trans hl.asset_eq
  check_le c hc := by
    rw [he.generation]
    rcases he.check with hsame | ⟨address, hnew, -⟩
    · exact hl.check_le c (hsame ▸ hc)
    · rw [hnew, List.mem_append, List.mem_singleton] at hc
      rcases hc with hc | rfl
      · exact hl.check_le c hc
      · exact le_rfl
  check n c hc heq := by
    rw [he.generation] at heq
    rw [he.input, sinceEdit_concat ht]
    have old (hn : h.checks[n]? = some c) :
        c.asset = asset ∧ Destination.ofString h.form.destinationInput = .ok c.address ∧
          ∃ b ∈ sinceEdit turns ++ [t], b.step = .beginCheck ∧ b.result = .begun (.ok (n, c.address)) := by
      obtain ⟨hasset, haddress, b, hb, hbegun⟩ := hl.check n c hn heq
      exact ⟨hasset, haddress, b, List.mem_append_left _ hb, hbegun⟩
    rcases he.check with hsame | ⟨address, hnew, haddress, hstep, hresult⟩
    · exact old (hsame ▸ hc)
    · rw [hnew, List.getElem?_append] at hc
      split at hc
      · exact old hc
      · next hn =>
        obtain ⟨hlast, rfl⟩ : n - h.checks.length = 0 ∧
            (⟨h.form.generation, address, h.form.asset⟩ : Check) = c := by
          simpa [List.getElem?_singleton] using hc
        have hn' : n = h.checks.length := by omega
        exact ⟨hl.asset_eq, haddress, t, by simp, hstep, hn' ▸ hresult⟩
  outcome_le o ho := by
    rw [he.generation]
    rcases he.outcome with hsame | ⟨o', hnew, hle, -⟩
    · exact hl.outcome_le o (hsame ▸ ho)
    · rw [hnew, List.mem_append, List.mem_singleton] at ho
      rcases ho with ho | rfl
      · exact hl.outcome_le o ho
      · exact hle
  outcome o ho heq := by
    rw [he.generation] at heq
    rw [he.input, sinceEdit_concat ht]
    rcases he.outcome with hsame | ⟨o', hnew, -, hfounded⟩
    · exact (hl.outcome o (hsame ▸ ho) heq).concat t
    · rw [hnew, List.mem_append, List.mem_singleton] at ho
      rcases ho with ho | rfl
      · exact (hl.outcome o ho heq).concat t
      · exact hfounded heq
  field r hr := by
    rw [he.input, sinceEdit_concat ht]
    rcases he.field r hr with hold | hnew
    · exact (hl.field r hold).concat t
    · exact hnew

variable {form : Form}

theorem extends_of_same (hasset : form.asset = h.form.asset)
    (hgeneration : form.generation = h.form.generation)
    (hinput : form.destinationInput = h.form.destinationInput)
    (hfield : form.destination = h.form.destination) :
    Extends asset recent t h { h with form := form } where
  asset_eq := hasset
  generation := hgeneration
  input := hinput
  check := .inl rfl
  outcome := .inl rfl
  field _ hr := .inl (hfield ▸ hr)

theorem extends_of_result {s : Except AddressError String} (hasset : form.asset = h.form.asset)
    (hgeneration : form.generation = h.form.generation)
    (hinput : form.destinationInput = h.form.destinationInput)
    (hfield : form.destination = .ofResult s)
    (hs : Founded asset (recent ++ [t]) h.form.destinationInput s) :
    Extends asset recent t h { h with form := form } where
  asset_eq := hasset
  generation := hgeneration
  input := hinput
  check := .inl rfl
  outcome := .inl rfl
  field r hr := by
    have hrs : s = r := by
      rw [hfield] at hr
      cases r <;> cases s <;> cases hr <;> rfl
    exact .inr (hrs ▸ hs)

theorem founded_of_blank {e : AddressError}
    (he : Destination.ofString h.form.destinationInput = .error e) :
    Founded asset recent h.form.destinationInput (.error e) :=
  .inl ⟨e, he, rfl⟩

theorem founded_of_lookup {address : String} {answer : Lookup} (hl : Linked asset turns h)
    (ha : Destination.ofString h.form.destinationInput = .ok address)
    (ht : t.step = .validateDestination ∨ t.step = .validateAndSubmit)
    (hlookup : lookups t.asked = [(address, answer)]) :
    Founded asset (recent ++ [t]) h.form.destinationInput
      (Destination.judge h.form.asset address answer) :=
  .inr ⟨address, answer, ha, .atOnce (by simp) ht hlookup, by rw [hl.asset_eq]⟩

theorem founded_of_trust {address : String} {account : Account} (hl : Linked asset turns h)
    (ha : Destination.ofString h.form.destinationInput = .ok address)
    (htrusts : account.trusts h.form.asset) (ht : t.step = .validateAndSubmit)
    (hlookup : lookups t.asked = [(address, .ok account)]) :
    Founded asset (recent ++ [t]) h.form.destinationInput (.ok address) := by
  rw [← Stellar.Destination.judge_of_trusts htrusts]
  exact founded_of_lookup hl ha (.inr ht) hlookup

theorem founded_of_run {n : Nat} {c : Check} {o : Outcome} (hl : Linked asset turns h)
    (hc : h.checks[n]? = some c) (ht : t.step = .runCheck n) (hrun : Runs c.run t.asked o) :
    o.generation ≤ h.form.generation ∧
      (o.generation = h.form.generation →
        Founded asset (sinceEdit turns ++ [t]) h.form.destinationInput o.result) := by
  have hle := hl.check_le c (List.mem_of_getElem? hc)
  rcases Check.runs_run hrun with ⟨e, he, hasked, rfl⟩ | ⟨address, answer, ha, hasked, rfl⟩
  · refine ⟨hle, fun heq => ?_⟩
    obtain ⟨-, haddress, -⟩ := hl.check n c hc heq
    rw [Stellar.Destination.ofString_of_ofString haddress] at he
    cases he
  · refine ⟨hle, fun heq => ?_⟩
    obtain ⟨hasset, haddress, b, hb, hstep, hresult⟩ := hl.check n c hc heq
    obtain rfl : c.address = address := by
      rw [Stellar.Destination.ofString_of_ofString haddress] at ha
      cases ha
      rfl
    obtain ⟨earlier, between, hsplit⟩ := List.append_of_mem hb
    have hsplit' : sinceEdit turns ++ [t] = earlier ++ b :: between ++ t :: [] := by rw [hsplit]
    have hlookup : lookups t.asked = [(c.address, answer)] := by rw [hasked]; rfl
    exact .inr ⟨c.address, answer, haddress, .apart hsplit' hstep hresult ht hlookup, by rw [hasset]⟩

theorem Linked.move {step : Step} {asked : Asked} {r : Result} (hl : Linked asset turns h)
    (hm : Move h step asked r h') : Linked asset (turns ++ [⟨h, step, asked, r, h'⟩]) h' := by
  cases hm with
  | editDestination input => exact hl.edit _ (h.form.editDestination input) rfl rfl rfl
  | reset =>
    exact hl.edit _ h.form.reset (Form.reset_asset _) (Form.reset_generation _)
      (Form.reset_destination _)
  | refuse he => exact hl.extend rfl (extends_of_result rfl rfl rfl rfl (founded_of_blank he))
  | refuseCheck he => exact hl.extend rfl (extends_of_result rfl rfl rfl rfl (founded_of_blank he))
  | validate answer ha =>
    exact hl.extend rfl (extends_of_result rfl rfl rfl rfl (founded_of_lookup hl ha (.inl rfl) rfl))
  | @beginCheck address ha =>
    refine hl.extend rfl ⟨rfl, rfl, rfl, .inr ⟨address, rfl, ha, rfl, rfl⟩, .inl rfl, ?_⟩
    intro r hr
    cases r <;> cases hr
  | @runCheck n c asked o hc hrun =>
    exact hl.extend rfl ⟨rfl, rfl, rfl, .inl rfl, .inr ⟨o, rfl, founded_of_run hl hc rfl hrun⟩,
      fun _ hr => .inl hr⟩
  | @applyOutcome n o ho hgeneration =>
    have hfounded := hl.outcome o (List.mem_of_getElem? ho) hgeneration
    exact hl.extend rfl (extends_of_result rfl rfl rfl rfl (hfounded.concat _))
  | refuseDestination hd =>
    rcases Form.runs_validateDestination hd with
      ⟨e, he, rfl, -, rfl⟩ | ⟨address, answer, ha, rfl, -, rfl⟩
    · exact hl.extend rfl (extends_of_result rfl rfl rfl rfl (founded_of_blank he))
    · exact hl.extend rfl (extends_of_result rfl rfl rfl rfl (founded_of_lookup hl ha (.inr rfl) rfl))
  | refuseAmount ha ht hv =>
    exact hl.extend rfl (extends_of_result rfl rfl rfl rfl (founded_of_trust hl ha ht rfl rfl))
  | validateAndSubmit answer ha ht hv =>
    exact hl.extend rfl (extends_of_result rfl rfl rfl rfl (founded_of_trust hl ha ht rfl rfl))
  | _ => exact hl.extend rfl (extends_of_same rfl rfl rfl rfl)

theorem Reached.linked (hr : Reached asset turns h) : Linked asset turns h := by
  induction hr with
  | start => exact linked_start asset
  | turn _ hrun ih => exact ih.move (move_of_runs hrun)

theorem Linked.of_valid (hl : Linked asset turns h) {a : String} (ha : h.form.destination = .valid a) :
    a = Text.trim h.form.destinationInput ∧ a ≠ "" ∧
      ∃ account, LookedUp (sinceEdit turns) a (.ok account) ∧
        ∃ line ∈ account.lines,
          line.assetCode = some asset.code ∧ line.assetIssuer = some asset.issuer := by
  obtain ⟨htrim, hne, account, hlookup, htrusts⟩ := (hl.field (.ok a) ha).of_ok
  exact ⟨htrim, hne, account, hlookup, Stellar.Account.trusts_iff.1 htrusts⟩

theorem destination_confirmed_since_edit (hr : Reached asset turns h) :
    h.form.asset = asset ∧
      (∀ a, h.form.destination = .valid a →
        a = Text.trim h.form.destinationInput ∧ a ≠ "" ∧
          ∃ account, LookedUp (sinceEdit turns) a (.ok account) ∧
            ∃ line ∈ account.lines,
              line.assetCode = some asset.code ∧ line.assetIssuer = some asset.issuer) ∧
      (∀ a, h.form.destination = .invalid (.accountNotFound a) →
        a = Text.trim h.form.destinationInput) ∧
      (∀ a code, h.form.destination = .invalid (.missingTrustLine a code) →
        a = Text.trim h.form.destinationInput ∧ code = asset.code) ∧
      (h.form.destination = .invalid .empty →
        ∀ c ∈ h.form.destinationInput.toList, Text.isBlank c) ∧
      ∀ earlier t later, turns = earlier ++ t :: later →
        ∀ request answer, ⟨.dispatch request, answer⟩ ∈ t.asked →
          request.destination = Text.trim t.after.form.destinationInput ∧ request.destination ≠ "" ∧
            ∃ account, LookedUp (sinceEdit (earlier ++ [t])) request.destination (.ok account) ∧
              ∃ line ∈ account.lines,
                line.assetCode = some asset.code ∧ line.assetIssuer = some asset.issuer := by
  have hl := hr.linked
  refine ⟨hl.asset_eq, fun a ha => hl.of_valid ha, ?_, ?_, ?_, ?_⟩
  · intro a ha
    rcases (hl.field (.error _) ha).of_error with ⟨-, he⟩ | he | he
    · cases he
    · cases he
      rfl
    · cases he
  · intro a code ha
    rcases (hl.field (.error _) ha).of_error with ⟨-, he⟩ | he | he
    · cases he
    · cases he
    · cases he
      exact ⟨rfl, rfl⟩
  · intro ha
    rcases (hl.field (.error _) ha).of_error with ⟨hblank, -⟩ | he | he
    · exact Text.trim_eq_empty_iff.1 hblank
    · cases he
    · cases he
  · intro earlier t later hsplit request answer hq
    obtain ⟨-, hrun, hafter⟩ := hr.of_split hsplit
    obtain ⟨-, hrequest⟩ := (move_of_runs hrun).dispatched hq
    obtain ⟨v, hdestination, -⟩ := Form.eq_of_request hrequest
    exact hafter.linked.of_valid hdestination

def overtaken : List Turn × History :=
  play agreeable (.start ⟨"TFT", "GISSUER"⟩)
    [.editDestination "GOLD", .beginCheck, .editDestination " GNEW ", .beginCheck, .runCheck 0,
      .applyOutcome 0, .setBalance fiveTokens, .runCheck 1, .applyOutcome 1,
      .validateAmount, .submit]

theorem reached_overtaken : Reached ⟨"TFT", "GISSUER"⟩ overtaken.1 overtaken.2 :=
  Reached.of_play _ _

theorem destination_confirmed_overtaken :
    Reached ⟨"TFT", "GISSUER"⟩ overtaken.1 overtaken.2 ∧
      overtaken.2.form.destination = .valid "GNEW" ∧
      (∃ account, LookedUp (sinceEdit overtaken.1) "GNEW" (.ok account) ∧
        ∃ line ∈ account.lines, line.assetCode = some "TFT" ∧ line.assetIssuer = some "GISSUER") ∧
      ∃ earlier t later, overtaken.1 = earlier ++ t :: later ∧
        ∃ request answer, ⟨.dispatch request, answer⟩ ∈ t.asked ∧
          request.destination = Text.trim t.after.form.destinationInput := by
  have hall := destination_confirmed_since_edit reached_overtaken
  have hvalid : overtaken.2.form.destination = .valid "GNEW" := by decide +kernel
  obtain ⟨-, -, hconfirmed⟩ := hall.2.1 _ hvalid
  have hdispatch : overtaken.1.any fun t => t.asked.any fun x =>
      x.1 = .dispatch ⟨"GNEW", ⟨5, 0⟩, fiveTokens⟩ := by decide +kernel
  simp only [List.any_eq_true, decide_eq_true_eq] at hdispatch
  obtain ⟨t, ht, ⟨_, answer⟩, hq, rfl⟩ := hdispatch
  obtain ⟨earlier, later, hsplit⟩ := List.append_of_mem ht
  have htrim := (hall.2.2.2.2.2 earlier t later hsplit _ answer hq).1
  exact ⟨reached_overtaken, hvalid, hconfirmed, earlier, t, later, hsplit, _, answer, hq, htrim⟩

end History
end TokenBridge.Withdrawal
