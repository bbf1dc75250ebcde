import TokenBridge.Proofs.Command.Talk
import TokenBridge.Proofs.Config
import TokenBridge.Proofs.Stellar.Horizon
import TokenBridge.Proofs.Url.Reader

namespace TokenBridge.Command

open Dialogue (Runs)
open Stellar (Asset Horizon)
open Url (IsDots Verbatim behind dropEmptyEnd isControlOrSpace unbroken)

section Account

variable {h : Horizon} {list : List (List Char)} {asset : Asset} {s a : String}
  {exchanges : List (Exchange Query Answer)}

theorem of_runs_validate
    (hr : Runs (Stellar.Destination.validate (h.account fetch) asset s) exchanges (.ok a)) :
    a = Text.trim s ∧ ∃ url answer, h.accountUrl a = .ok url ∧ exchanges = [⟨.fetch url, answer⟩] := by
  have hlookUp : Runs (lookUp h asset s).run exchanges (.ok a) :=
    Dialogue.runs_bind_iff.2 ⟨exchanges, .ok a, [], by simp, hr, .done _⟩
  obtain ⟨htrim, url, answer, -, hurl, hexchanges, -⟩ := of_runs_lookUp hlookUp
  exact ⟨htrim, url, answer, hurl, hexchanges⟩

theorem destination_looked_up_by_name (h : Horizon) (list : List (List Char))
    (hpath : h.url.path = .segments list) :
    (∀ front, front ≠ [[]] → list = front ++ [[]] →
      Horizon.accountsPath list = front ++ ["accounts".toList]) ∧
    (list.getLast? ≠ some [] → Horizon.accountsPath list = list ++ ["accounts".toList]) ∧
    (∀ id, Verbatim id.toList → ∃ segment,
      h.accountUrl id = .ok (h.withPath (Horizon.accountsPath list ++ [segment])) ∧
      Url.percentDecode (Text.utf8 segment) = Text.utf8 id.toList) ∧
    (∀ id other u v, Verbatim id.toList → Verbatim other.toList →
      h.accountUrl id = .ok u → h.accountUrl other = .ok v → u.text = v.text → id = other) ∧
    (∀ id, ¬ IsDots id.toList → ¬ IsDots (unbroken id.toList) →
      h.accountUrl id = h.accountUrl (String.ofList (unbroken id.toList))) ∧
    (∀ id, IsDots id.toList → h.accountUrl id = .ok (h.withPath (Horizon.accountsPath list))) ∧
    (∀ id, ¬ IsDots id.toList → unbroken id.toList = ['.'] →
      h.accountUrl id = .ok (h.withPath (Horizon.accountsPath list ++ [[]]))) ∧
    (∀ id, ¬ IsDots id.toList → unbroken id.toList = ['.', '.'] →
      h.accountUrl id = .ok (h.withPath (behind (dropEmptyEnd list) ++ [[]]))) ∧
    ∀ asset s exchanges a,
      Runs (Stellar.Destination.validate (h.account fetch) asset s) exchanges (.ok a) →
      a = Text.trim s ∧ ∃ url answer, h.accountUrl a = .ok url ∧ exchanges = [⟨.fetch url, answer⟩] ∧
        ∀ other, Verbatim a.toList → Verbatim other.toList → h.accountUrl other = .ok url → other = a := by
  refine ⟨?_, ?_, ?_, ?_, ?_, ?_, ?_, ?_, ?_⟩
  · rintro front hne rfl
    rw [Horizon.accountsPath, Url.behind_dropEmptyEnd_append hne]
  · intro hend
    rw [Horizon.accountsPath, Url.behind_dropEmptyEnd hend]
  · intro id hid
    exact ⟨h.segment id, Horizon.accountUrl_of_verbatim hpath hid, h.percentDecode_segment id⟩
  · intro id other u v hid hother hu hv htext
    exact Horizon.accountUrl_inj hpath hid hother hu hv htext
  · intro id hid hkept
    exact Horizon.accountUrl_unbroken hpath hid hkept
  · intro id hid
    exact Horizon.accountUrl_dots hpath hid
  · intro id hid hkept
    exact Horizon.accountUrl_brokenDot hpath hid hkept
  · intro id hid hkept
    exact Horizon.accountUrl_brokenDots hpath hid hkept
  · intro asset s exchanges a hr
    obtain ⟨htrim, url, answer, hurl, hexchanges⟩ := of_runs_validate hr
    refine ⟨htrim, url, answer, hurl, hexchanges, fun other ha hother hsame => ?_⟩
    exact Horizon.accountUrl_inj hpath hother ha hsame hurl rfl

theorem destination_looked_up_by_name_slash :
    let h : Horizon := ⟨⟨"http".toList, some ⟨[], [], .name "localhost".toList, some 8000⟩,
      .segments ["horizon".toList, []], none, none⟩⟩
    (∃ segment, h.accountUrl "G/ %é" =
        .ok (h.withPath ["horizon".toList, "accounts".toList, segment]) ∧
      Url.percentDecode (Text.utf8 segment) = Text.utf8 "G/ %é".toList) ∧
      h.accountUrl "G\nA" = h.accountUrl "GA" ∧
      h.accountUrl ".." = .ok (h.withPath ["horizon".toList, "accounts".toList]) := by
  intro h
  obtain ⟨hbehind, -, hnamed, -, hbroken, hdots, -⟩ :=
    destination_looked_up_by_name h ["horizon".toList, []] rfl
  have hpath := hbehind ["horizon".toList] (by decide) rfl
  rw [hpath] at hnamed hdots
  exact ⟨hnamed "G/ %é" ⟨by decide, by decide⟩, hbroken "G\nA" (by decide) (by decide), hdots ".." (by decide)⟩

theorem destination_looked_up_by_other_name :
    ¬ ∀ (h : Horizon) (list : List (List Char)) (id other : String), h.url.path = .segments list →
      id ≠ "" → Text.trim id = id → other ≠ "" → Text.trim other = other →
      h.accountUrl id = h.accountUrl other → id = other := by
  intro hall
  let h : Horizon := ⟨⟨"http".toList, some ⟨[], [], .name "localhost".toList, none⟩, .segments [[]], none, none⟩⟩
  have hsame : h.accountUrl "GA\tB" = h.accountUrl "GAB" :=
    Horizon.accountUrl_unbroken rfl (by decide) (by decide)
  exact absurd (hall h [[]] "GA\tB" "GAB" rfl (by decide) (by decide) (by decide) (by decide) hsame) (by decide)

end Account

section Settings

variable {vars : Variables} {c : Config} {h : Horizon} {asset : Asset} {value : String}

def noFlags : HorizonArguments :=
  ⟨none, none⟩

theorem horizonSettings_noFlags (hc : Config.read vars = .ok c) :
    horizonSettings noFlags vars =
      match Horizon.read ((vars "STELLAR_HORIZON_URL").getD defaultHorizon) with
      | .ok h => .ok (h, c.asset)
      | .error e => .error (.network e) := by
  have hasset : assetOf noFlags vars = .ok c.asset := by
    rw [assetOf, noFlags, hc]
    rfl
  rw [horizonSettings, hasset, horizonUrl, noFlags]
  cases Horizon.read ((vars "STELLAR_HORIZON_URL").getD defaultHorizon) <;> rfl

theorem horizonSettings_eq_ok_iff (hc : Config.read vars = .ok c) :
    horizonSettings noFlags vars = .ok (h, asset) ↔
      Horizon.read ((vars "STELLAR_HORIZON_URL").getD defaultHorizon) = .ok h ∧ asset = c.asset := by
  rw [horizonSettings_noFlags hc]
  cases Horizon.read ((vars "STELLAR_HORIZON_URL").getD defaultHorizon) with
  | ok horizon => simp [eq_comm]
  | error e => simp

theorem horizonSettings_of_blank_front (hc : Config.read vars = .ok c)
    (hvalue : vars "STELLAR_HORIZON_URL" = some value)
    (hblank : ∀ first, (value.toList.dropWhile isControlOrSpace).head? = some first → Text.isBlank first) :
    horizonSettings noFlags vars =
      .error (.network (.lookup "invalid Horizon URL: relative URL without a base")) := by
  rw [horizonSettings_noFlags hc, hvalue, Option.getD_some, Horizon.read, Url.read,
    Url.readChars_of_blank_front hblank]
  rfl

theorem blank_front_of_blank (hblank : Text.trim value = "") :
    ∀ first, (value.toList.dropWhile isControlOrSpace).head? = some first → Text.isBlank first := by
  intro first hfirst
  have hmem : first ∈ value.toList := (List.dropWhile_sublist _).subset (List.mem_of_mem_head? hfirst)
  exact Text.trim_eq_empty_iff.1 hblank first hmem

/-- White space around a text is of ASCII. -/
def PlainlyPadded (value : String) : Prop :=
  ∃ front back, value.toList = front ++ (Text.trim value).toList ++ back ∧
    ∀ x ∈ front ++ back, isControlOrSpace x

theorem read_of_plainlyPadded (hvalue : PlainlyPadded value) :
    Horizon.read value = Horizon.read (Text.trim value) := by
  obtain ⟨front, back, hlist, hpadding⟩ := hvalue
  obtain ⟨hfront, hback⟩ := List.forall_mem_append.1 hpadding
  refine Horizon.read_congr ?_
  rw [hlist, Url.cleaned_padded hfront hback]

theorem read_defaultHorizon : ∃ h, Horizon.read defaultHorizon = .ok h :=
  ⟨⟨⟨"https".toList, some ⟨[], [], .name "horizon.stellar.org".toList, none⟩, .segments [[]], none, none⟩⟩,
    by decide +kernel⟩

theorem horizonSettings_configured (vars : Variables) (c : Config) (hc : Config.read vars = .ok c) :
    (∀ h asset, horizonSettings noFlags vars = .ok (h, asset) ↔
      Horizon.read ((vars "STELLAR_HORIZON_URL").getD defaultHorizon) = .ok h ∧ asset = c.asset) ∧
    ((∀ value, vars "STELLAR_HORIZON_URL" = some value → Text.trim value ≠ "" ∧ PlainlyPadded value) →
      ∀ h asset, horizonSettings noFlags vars = .ok (h, asset) ↔
        Horizon.read c.horizon = .ok h ∧ asset = c.asset) ∧
    (∀ value, vars "STELLAR_HORIZON_URL" = some value →
      (∀ first, (value.toList.dropWhile isControlOrSpace).head? = some first → Text.isBlank first) →
      horizonSettings noFlags vars =
        .error (.network (.lookup "invalid Horizon URL: relative URL without a base"))) ∧
    (∀ value, vars "STELLAR_HORIZON_URL" = some value → Text.trim value = "" →
      horizonSettings noFlags vars =
        .error (.network (.lookup "invalid Horizon URL: relative URL without a base")) ∧
      c.horizon = defaultHorizon ∧ ∃ h, Horizon.read c.horizon = .ok h) := by
  obtain ⟨-, -, hhorizon, -⟩ := Config.read_eq_ok_iff.1 hc
  refine ⟨fun h asset => horizonSettings_eq_ok_iff hc, ?_, ?_, ?_⟩
  · intro hset h asset
    rw [horizonSettings_eq_ok_iff hc, hhorizon]
    cases hraw : vars "STELLAR_HORIZON_URL" with
    | none => rw [Config.setting?_eq_none_iff.2 (by simp [hraw])]
    | some value =>
      obtain ⟨hne, hpadded⟩ := hset value hraw
      rw [Config.setting?_eq_some_iff.2 ⟨value, hraw, rfl, hne⟩, Option.getD_some, Option.getD_some,
        read_of_plainlyPadded hpadded]
  · intro value hvalue hblank
    exact horizonSettings_of_blank_front hc hvalue hblank
  · intro value hvalue hblank
    have hunset : ∀ v, vars "STELLAR_HORIZON_URL" = some v → Text.trim v = "" := by
      intro v hv
      rw [hvalue] at hv
      cases hv
      exact hblank
    rw [Config.setting?_eq_none_iff.2 hunset, Option.getD_none] at hhorizon
    rw [hhorizon]
    exact ⟨horizonSettings_of_blank_front hc hvalue (blank_front_of_blank hblank), rfl, read_defaultHorizon⟩

theorem horizonSettings_configured_padded :
    let vars : Variables := fun name =>
      [("TFT_ASSET_ISSUER", "GX"), ("STELLAR_HORIZON_URL", " http://h:8000/\n")].lookup name
    horizonSettings noFlags vars =
      .ok (⟨⟨"http".toList, some ⟨[], [], .name "h".toList, some 8000⟩, .segments [[]], none, none⟩⟩,
        ⟨"TFT", "GX"⟩) := by
  intro vars
  have hread : Config.read vars =
      .ok ⟨"http://h:8000/", ⟨"TFT", "GX"⟩, none, none, none, none, "stellar", 12000⟩ := by
    decide +kernel
  obtain ⟨-, hagrees, -⟩ := horizonSettings_configured vars _ hread
  refine (hagrees ?_ _ _).2 ⟨by decide +kernel, rfl⟩
  rintro value ⟨⟩
  exact ⟨by decide, [' '], ['\n'], by decide, List.all_eq_true.1 rfl⟩

theorem horizonSettings_blank_differ :
    ¬ ∀ (vars : Variables) (c : Config), Config.read vars = .ok c →
      ((∃ h asset, horizonSettings noFlags vars = .ok (h, asset)) ↔ ∃ h, Horizon.read c.horizon = .ok h) := by
  intro hall
  let vars : Variables := fun name => [("TFT_ASSET_ISSUER", "GX"), ("STELLAR_HORIZON_URL", "  ")].lookup name
  have hread : Config.read vars =
      .ok ⟨defaultHorizon, ⟨"TFT", "GX"⟩, none, none, none, none, "stellar", 12000⟩ := by
    decide +kernel
  obtain ⟨h, asset, hok⟩ := (hall vars _ hread).2 read_defaultHorizon
  have hblank : vars "STELLAR_HORIZON_URL" = some "  " := rfl
  rw [horizonSettings_of_blank_front hread hblank (blank_front_of_blank (by decide))] at hok
  cases hok

end Settings

end TokenBridge.Command
