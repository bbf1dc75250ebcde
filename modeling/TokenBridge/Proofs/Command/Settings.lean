import Mathlib.Logic.Function.Basic
import TokenBridge.Proofs.Command.Horizon
import TokenBridge.Proofs.Command.Withdraw
import TokenBridge.Proofs.Config.Decision

namespace TokenBridge.Command

open Config (Alike Checked Describes FirstOf Holds)
open Dialogue (Runs)
open Stellar (Asset Horizon)

section Interval

variable {flag : Option Nat} {vars : Variables} {ms : Nat} {exchanges : List (Exchange Query Answer)}

theorem interval_pos (h : interval flag vars = .ok ms) : 0 < ms := by
  cases flag with
  | some given =>
    cases h
    exact lt_max_of_lt_right Nat.one_pos
  | none => exact Config.interval_pos h

theorem of_runs_watchBalance {args : WatchArguments} {watch : Watch}
    (hr : Runs (run (.watchBalance args) vars).run exchanges (.ok (some watch))) :
    interval args.interval vars = .ok watch.interval := by
  obtain ⟨_, started, _, -, hstart, hdone⟩ := Dialogue.runs_attempt_bind_ok_iff.1 hr
  obtain ⟨-, hwatch⟩ := Dialogue.runs_done_iff.1 hdone
  obtain rfl : watch = started := by cases hwatch; rfl
  obtain ⟨_, found, _, -, hinterval, hrest⟩ := Dialogue.runs_attempt_bind_ok_iff.1 hstart
  obtain ⟨_, client, _, -, -, hmade⟩ := Dialogue.runs_attempt_bind_ok_iff.1 hrest
  obtain ⟨-, heq⟩ := Dialogue.runs_done_iff.1 hmade
  rw [(of_runs_decided hinterval).2]
  cases heq
  rfl

theorem configuration_decided (vars : Variables) :
    (∀ c, Config.read vars = .ok c ↔ Describes vars c) ∧
    ((∃ c, Config.read vars = .ok c) ↔ ∀ v : Checked, v.Fits vars) ∧
    (∀ e, Config.read vars = .error e → ∃ v, FirstOf (¬ ·.Fits vars) Checked.all v ∧ e.name = v.name) ∧
    (∀ vars', (∀ name ∈ Config.consulted, ∀ s, Holds vars' name s ↔ Holds vars name s) →
      Config.read vars' = Config.read vars) ∧
    (∀ vars', (∀ name ∈ Config.consulted, Alike (vars name) (vars' name)) → Config.read vars' = Config.read vars) ∧
    (∀ c, Config.read vars = .ok c → 1 ≤ c.pollInterval) ∧
    (∀ ms, Config.interval vars = .ok ms → 1 ≤ ms) ∧
    (∀ flag ms, interval flag vars = .ok ms → 1 ≤ ms) ∧
    ∀ args exchanges watch,
      Runs (run (.watchBalance args) vars).run exchanges (.ok (some watch)) → 1 ≤ watch.interval := by
  refine ⟨fun c => Config.read_eq_ok_iff_describes, ?_, (Config.blames_read vars).first, fun vars' => Config.read_congr,
    fun vars' halike => Config.read_congr fun name hname s => (halike name hname).holds_iff, fun c hc => ?_,
    fun ms => Config.interval_pos, fun flag ms => interval_pos, fun args exchanges watch hr => ?_⟩
  · rw [(Config.blames_read vars).exists_ok_iff]
    exact ⟨fun h v => h v v.mem_all, fun h v _ => h v⟩
  · obtain ⟨⟨-, -, -, hinterval⟩, -⟩ := Config.read_eq_ok_iff.1 hc
    exact Config.interval_pos hinterval
  · exact interval_pos (of_runs_watchBalance hr)

def twoFaults : Variables := fun name =>
  [("TFT_ASSET_ISSUER", " GI\n"), ("CONTRACT_ADDRESS", "0x1234"), ("BALANCE_POLL_INTERVAL_MS", "0")].lookup name

def twoFaultsPadded : Variables := fun name =>
  [("HOME", "/"), ("TFT_ASSET_ISSUER", "GI"), ("CONTRACT_ADDRESS", "\t0x1234"), ("EVM_CHAIN_ID", "\u00a0"),
    ("BALANCE_POLL_INTERVAL_MS", "0\u3000")].lookup name

def flaggedArguments : WatchArguments :=
  ⟨⟨Address.zero, ⟨"http://localhost:8545", 56⟩, Address.zero⟩, some 0⟩

theorem configuration_decided_two_faults :
    (∃ v, FirstOf (¬ ·.Fits twoFaults) Checked.all v ∧ v.name = "CONTRACT_ADDRESS") ∧
      Config.read twoFaultsPadded = Config.read twoFaults ∧
      ∃ exchanges watch, Runs (run (.watchBalance flaggedArguments) twoFaults).run exchanges (.ok (some watch)) ∧
        1 ≤ watch.interval := by
  obtain ⟨-, -, hfirst, -, halike, -, -, -, hwatch⟩ := configuration_decided twoFaults
  refine ⟨?_, halike twoFaultsPadded ?_, ?_⟩
  · have hread : Config.read twoFaults = .error (.invalid "CONTRACT_ADDRESS" "invalid string length") := by
      decide +kernel
    obtain ⟨v, hv, hname⟩ := hfirst _ hread
    exact ⟨v, hv, hname.symm⟩
  · simp only [Config.consulted, Checked.all, Checked.name, List.map_cons, List.map_nil, List.cons_append,
      List.nil_append, List.forall_mem_cons]
    refine ⟨.padded ⟨[' '], ['\n'], by decide, List.all_eq_true.1 rfl⟩ (Text.Padded.refl "GI"),
      .padded (Text.Padded.refl "0x1234") ⟨['\t'], [], by decide, List.all_eq_true.1 rfl⟩,
      .unset_blank (List.all_eq_true.1 rfl),
      .padded (Text.Padded.refl "0") ⟨[], ['\u3000'], by decide, List.all_eq_true.1 rfl⟩,
      .unset, .unset, .unset, .unset, .unset, by simp⟩
  · let url : Url := ⟨"http".toList, some ⟨[], [], .name "localhost".toList, some 8545⟩, .segments [[]], none, none⟩
    have hr := Dialogue.runs_answered obliging (run (.watchBalance flaggedArguments) twoFaults).run
    have hanswer : ((run (.watchBalance flaggedArguments) twoFaults).run.answered obliging).2 =
        .ok (some ⟨⟨url, Address.zero, 56, "stellar", none⟩, Address.zero, 1⟩) := by
      decide +kernel
    rw [hanswer] at hr
    exact ⟨_, _, hr, hwatch _ _ _ hr⟩

end Interval

section Issuer

variable {args : HorizonArguments} {vars vars' : Variables} {url : Option String} {issuer name s : String}
  {asset : Asset}

theorem horizonSettings_of_asset (h : assetOf args vars = .ok asset) :
    horizonSettings args vars = ((Horizon.read (horizonUrl args vars)).mapError .network).map (·, asset) := by
  rw [horizonSettings, h]
  rfl

theorem horizonSettings_congr {args' : HorizonArguments} (hasset : assetOf args' vars' = assetOf args vars)
    (hurl : horizonUrl args' vars' = horizonUrl args vars) :
    horizonSettings args' vars' = horizonSettings args vars := by
  rw [horizonSettings, hasset, hurl, horizonSettings]

theorem horizonSettings_noIssuer_of_error {e : ConfigError} (h : Config.read vars = .error e) :
    horizonSettings ⟨url, none⟩ vars = .error (.config e) := by
  rw [horizonSettings, assetOf, h]
  rfl

theorem horizonSettings_issuer_ne_config {e : ConfigError} :
    horizonSettings ⟨url, some issuer⟩ vars ≠ .error (.config e) := by
  rw [horizonSettings_of_asset rfl]
  cases Horizon.read (horizonUrl ⟨url, some issuer⟩ vars) <;> rintro ⟨⟩

theorem horizonUrl_congr {flag flag' : Option String} (h : vars' "STELLAR_HORIZON_URL" = vars "STELLAR_HORIZON_URL") :
    horizonUrl ⟨url, flag⟩ vars' = horizonUrl ⟨url, flag'⟩ vars := by
  cases url with
  | some url => rfl
  | none =>
    dsimp only [horizonUrl]
    rw [h]

theorem assetCode_congr (h : ∀ s, Holds vars' "TFT_ASSET_CODE" s ↔ Holds vars "TFT_ASSET_CODE" s) :
    Config.assetCode vars' = Config.assetCode vars := by
  rw [Config.assetCode, Config.assetCode, Config.setting?_congr h]

theorem assetOf_noIssuer (h : ∀ v : Checked, v ≠ .issuer → v.Fits vars) :
    assetOf ⟨url, none⟩ vars = (Config.issuer vars).map (⟨Config.assetCode vars, ·⟩) := by
  cases hissuer : Config.issuer vars with
  | error e =>
    rw [assetOf, Config.read, hissuer]
    rfl
  | ok i =>
    obtain ⟨c, hc⟩ : ∃ c, Config.read vars = .ok c := by
      refine (Config.blames_read vars).exists_ok_iff.2 fun v _ => ?_
      by_cases hv : v = .issuer
      · subst hv
        exact ⟨i, Config.issuer_eq_ok_iff.1 hissuer⟩
      · exact h v hv
    obtain ⟨⟨hi, -⟩, hcode, -⟩ := Config.read_eq_ok_iff.1 hc
    obtain rfl : i = c.asset.issuer := Except.ok.inj (hissuer.symm.trans hi)
    rw [assetOf, hc, ← hcode]
    rfl

def withIssuer (vars : Variables) (issuer : String) : Variables :=
  Function.update vars "TFT_ASSET_ISSUER" (some issuer)

theorem withIssuer_of_ne (h : name ≠ "TFT_ASSET_ISSUER") : withIssuer vars issuer name = vars name :=
  Function.update_of_ne h _ _

theorem holds_withIssuer_of_ne (h : name ≠ "TFT_ASSET_ISSUER") :
    Holds (withIssuer vars issuer) name s ↔ Holds vars name s := by
  rw [Holds, withIssuer_of_ne h, Holds]

theorem holds_withIssuer (hne : issuer ≠ "") (htrim : Text.trim issuer = issuer) :
    Holds (withIssuer vars issuer) "TFT_ASSET_ISSUER" issuer :=
  ⟨issuer, Function.update_self _ _ _, htrim.symm, hne⟩

theorem fits_withIssuer {v : Checked} (hv : v ≠ .issuer) : v.Fits (withIssuer vars issuer) ↔ v.Fits vars := by
  cases v with
  | issuer => exact absurd rfl hv
  | contract | chain | interval => simp [Checked.Fits, holds_withIssuer_of_ne]

theorem horizonSettings_withIssuer (hne : issuer ≠ "") (htrim : Text.trim issuer = issuer)
    (h : ∀ v : Checked, v ≠ .issuer → v.Fits vars) :
    horizonSettings ⟨url, none⟩ (withIssuer vars issuer) = horizonSettings ⟨url, some issuer⟩ vars := by
  refine horizonSettings_congr ?_ (horizonUrl_congr (withIssuer_of_ne (by decide)))
  have hcode : Config.assetCode (withIssuer vars issuer) = Config.assetCode vars :=
    assetCode_congr fun _ => holds_withIssuer_of_ne (by decide)
  rw [assetOf_noIssuer fun v hv => (fits_withIssuer hv).2 (h v hv),
    Config.issuer_eq_ok_iff.2 (holds_withIssuer hne htrim), hcode]
  rfl

theorem horizonSettings_withIssuer_of_not_fits (hne : issuer ≠ "") (htrim : Text.trim issuer = issuer)
    (h : ¬ ∀ v : Checked, v ≠ .issuer → v.Fits vars) :
    ∃ v : Checked, FirstOf (¬ ·.Fits vars) [.contract, .chain, .interval] v ∧
      ∃ e, e.name = v.name ∧ horizonSettings ⟨url, none⟩ (withIssuer vars issuer) = .error (.config e) := by
  have hblames := Config.blames_read (withIssuer vars issuer)
  cases hread : Config.read (withIssuer vars issuer) with
  | ok c => exact absurd (fun v hv => (fits_withIssuer hv).1 (hblames.fits c hread v v.mem_all)) h
  | error e =>
    obtain ⟨v, hfirst, hname⟩ := hblames.first e hread
    have hrest : FirstOf (¬ ·.Fits (withIssuer vars issuer)) [.contract, .chain, .interval] v := by
      cases hfirst with
      | here hspoiled => exact absurd ⟨issuer, holds_withIssuer hne htrim⟩ hspoiled
      | later _ hrest => exact hrest
    refine ⟨v, hrest.congr fun u hu => not_congr (fits_withIssuer ?_), e, hname,
      horizonSettings_noIssuer_of_error hread⟩
    rintro rfl
    simp at hu

theorem issuer_by_flag_or_variable (url : Option String) (issuer : String) (vars : Variables) (hne : issuer ≠ "")
    (htrim : Text.trim issuer = issuer) :
    (horizonSettings ⟨url, none⟩ (withIssuer vars issuer) = horizonSettings ⟨url, some issuer⟩ vars ↔
      ∀ v : Checked, v ≠ .issuer → v.Fits vars) ∧
    ((¬ ∀ v : Checked, v ≠ .issuer → v.Fits vars) →
      ∃ v : Checked, FirstOf (¬ ·.Fits vars) [.contract, .chain, .interval] v ∧
        ∃ e, e.name = v.name ∧ horizonSettings ⟨url, none⟩ (withIssuer vars issuer) = .error (.config e)) ∧
    ∀ vars', (∀ s, Holds vars' "TFT_ASSET_CODE" s ↔ Holds vars "TFT_ASSET_CODE" s) →
      vars' "STELLAR_HORIZON_URL" = vars "STELLAR_HORIZON_URL" →
      horizonSettings ⟨url, some issuer⟩ vars' = horizonSettings ⟨url, some issuer⟩ vars ∧
        ((∀ s, Holds vars' "TFT_ASSET_ISSUER" s ↔ Holds vars "TFT_ASSET_ISSUER" s) →
          (∀ v : Checked, v ≠ .issuer → v.Fits vars ∧ v.Fits vars') →
          horizonSettings ⟨url, none⟩ vars' = horizonSettings ⟨url, none⟩ vars) := by
  refine ⟨⟨fun hsame => ?_, horizonSettings_withIssuer hne htrim⟩,
    horizonSettings_withIssuer_of_not_fits hne htrim, fun vars' hcode hurl => ⟨?_, fun hissuer hfits => ?_⟩⟩
  · by_contra hspoiled
    obtain ⟨-, -, e, -, herror⟩ := horizonSettings_withIssuer_of_not_fits hne htrim hspoiled
    exact horizonSettings_issuer_ne_config (hsame.symm.trans herror)
  · refine horizonSettings_congr ?_ (horizonUrl_congr hurl)
    simp only [assetOf, assetCode_congr hcode]
  · refine horizonSettings_congr ?_ (horizonUrl_congr hurl)
    rw [assetOf_noIssuer fun v hv => (hfits v hv).1, assetOf_noIssuer fun v hv => (hfits v hv).2,
      assetCode_congr hcode, Config.issuer, Config.issuer, Config.setting?_congr hissuer]

def onlyChain (value : String) : Variables := fun name => [("EVM_CHAIN_ID", value)].lookup name

theorem not_fits_onlyChain : ¬ Checked.chain.Fits (onlyChain "bsc") := by
  intro hfits
  obtain ⟨found, hfound⟩ :=
    (Config.blames_chainId (onlyChain "bsc")).exists_ok_iff.2 (List.forall_mem_singleton.2 hfits)
  have hchain : Config.chainId (onlyChain "bsc") =
      .error (.invalid "EVM_CHAIN_ID" "invalid digit found in string") := by
    decide +kernel
  rw [hchain] at hfound
  cases hfound

theorem issuer_by_flag_or_variable_chain :
    horizonSettings ⟨none, none⟩ (withIssuer (onlyChain " 56") "GX") =
        horizonSettings ⟨none, some "GX"⟩ (onlyChain " 56") ∧
      horizonSettings ⟨none, none⟩ (withIssuer (onlyChain "bsc") "GX") ≠
        horizonSettings ⟨none, some "GX"⟩ (onlyChain "bsc") ∧
      horizonSettings ⟨none, some "GX"⟩ (onlyChain "bsc") = horizonSettings ⟨none, some "GX"⟩ (onlyChain " 56") := by
  have hne : "GX" ≠ "" := by decide
  have htrim : Text.trim "GX" = "GX" := by decide
  obtain ⟨hagree, -, hdepend⟩ := issuer_by_flag_or_variable none "GX" (onlyChain " 56") hne htrim
  refine ⟨hagree.2 fun v hv => ?_, fun hsame => ?_, (hdepend (onlyChain "bsc") (fun s => Iff.rfl) rfl).1⟩
  · have hread : Config.read (withIssuer (onlyChain " 56") "GX") =
        .ok ⟨defaultHorizon, ⟨"TFT", "GX"⟩, none, none, none, some 56, "stellar", 12000⟩ := by
      decide +kernel
    exact (fits_withIssuer hv).1 ((Config.blames_read _).fits _ hread v v.mem_all)
  · exact not_fits_onlyChain
      ((issuer_by_flag_or_variable none "GX" (onlyChain "bsc") hne htrim).1.1 hsame .chain (by rintro ⟨⟩))

theorem issuer_by_variable_spoiled :
    ¬ ∀ (url : Option String) (issuer : String) (vars : Variables), issuer ≠ "" → Text.trim issuer = issuer →
      horizonSettings ⟨url, none⟩ (withIssuer vars issuer) = horizonSettings ⟨url, some issuer⟩ vars := by
  intro hall
  have hne : "GX" ≠ "" := by decide
  have htrim : Text.trim "GX" = "GX" := by decide
  obtain ⟨-, -, e, -, herror⟩ := horizonSettings_withIssuer_of_not_fits hne htrim
    fun hfits => not_fits_onlyChain (hfits .chain (by rintro ⟨⟩))
  exact horizonSettings_issuer_ne_config ((hall none "GX" (onlyChain "bsc") hne htrim).symm.trans herror)

end Issuer

end TokenBridge.Command
