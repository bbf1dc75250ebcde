import TokenBridge.Proofs.Config

namespace TokenBridge.Config

section FirstOf

variable {α : Type} {P : α → Prop} {x y : α} {xs ys : List α}

/-- The first element of a list that has some property. -/
inductive FirstOf (P : α → Prop) : List α → α → Prop
  | here {x : α} {xs : List α} : P x → FirstOf P (x :: xs) x
  | later {x y : α} {xs : List α} : ¬ P x → FirstOf P xs y → FirstOf P (x :: xs) y

theorem FirstOf.mem (h : FirstOf P xs y) : y ∈ xs ∧ P y := by
  induction h with
  | here hx => exact ⟨List.mem_cons_self, hx⟩
  | later _ _ ih => exact ⟨List.mem_cons_of_mem _ ih.1, ih.2⟩

theorem FirstOf.append_right (h : FirstOf P xs y) (ys : List α) : FirstOf P (xs ++ ys) y := by
  induction h with
  | here hx => exact .here hx
  | later hx _ ih => exact .later hx ih

theorem FirstOf.append_left (hxs : ∀ x ∈ xs, ¬ P x) (h : FirstOf P ys y) : FirstOf P (xs ++ ys) y := by
  induction xs with
  | nil => exact h
  | cons x xs ih =>
    obtain ⟨hx, hxs⟩ := List.forall_mem_cons.1 hxs
    exact .later hx (ih hxs)

theorem FirstOf.congr {Q : α → Prop} (h : FirstOf P xs y) (hPQ : ∀ x ∈ xs, P x ↔ Q x) : FirstOf Q xs y := by
  induction h with
  | here hx => exact .here ((hPQ _ List.mem_cons_self).1 hx)
  | later hx _ ih =>
    obtain ⟨hfirst, hrest⟩ := List.forall_mem_cons.1 hPQ
    exact .later (mt hfirst.2 hx) (ih hrest)

end FirstOf

inductive Checked
  | issuer
  | contract
  | chain
  | interval

namespace Checked

def name : Checked → String
  | issuer => "TFT_ASSET_ISSUER"
  | contract => "CONTRACT_ADDRESS"
  | chain => "EVM_CHAIN_ID"
  | interval => "BALANCE_POLL_INTERVAL_MS"

def all : List Checked :=
  [issuer, contract, chain, interval]

/-- What a variable has to hold. All but the issuer may hold nothing. -/
def Fits (vars : Variables) : Checked → Prop
  | issuer => ∃ s, Holds vars "TFT_ASSET_ISSUER" s
  | contract => ∀ s, Holds vars "CONTRACT_ADDRESS" s → ∃ a, SpellsAddress s a
  | chain => ∀ s, Holds vars "EVM_CHAIN_ID" s → ∃ n, SpellsWord64 s n
  | interval => ∀ s, Holds vars "BALANCE_POLL_INTERVAL_MS" s → ∃ ms, SpellsInterval s ms

theorem mem_all (v : Checked) : v ∈ all := by
  cases v <;> simp [all]

end Checked

variable {α β : Type} {vars vars' : Variables} {c : Config} {name s : String} {ms : ℕ} {list rest : List Checked}

structure Blames (vars : Variables) (list : List Checked) (x : Except ConfigError α) : Prop where
  fits : ∀ a, x = .ok a → ∀ v ∈ list, v.Fits vars
  first : ∀ e, x = .error e → ∃ v, FirstOf (¬ ·.Fits vars) list v ∧ e.name = v.name

namespace Blames

variable {x : Except ConfigError α} {f : α → Except ConfigError β}

theorem ok (a : α) : Blames vars [] (.ok a : Except ConfigError α) where
  fits := by simp
  first := by simp

theorem bind (hx : Blames vars list x) (hf : ∀ a, Blames vars rest (f a)) : Blames vars (list ++ rest) (x >>= f) where
  fits := by
    intro b hb
    obtain ⟨a, ha, hfa⟩ := bind_eq_ok_iff.1 hb
    exact List.forall_mem_append.2 ⟨hx.fits a ha, (hf a).fits b hfa⟩
  first := by
    intro e he
    cases x with
    | error e' =>
      cases he
      obtain ⟨v, hv, hname⟩ := hx.first _ rfl
      exact ⟨v, hv.append_right rest, hname⟩
    | ok a =>
      obtain ⟨v, hv, hname⟩ := (hf a).first e he
      exact ⟨v, hv.append_left fun u hu => not_not.2 (hx.fits a rfl u hu), hname⟩

theorem map (hx : Blames vars list x) (g : α → β) : Blames vars list (x.map g) where
  fits := by
    intro b hb
    cases x with
    | error e => cases hb
    | ok a => exact hx.fits a rfl
  first := by
    intro e he
    cases x with
    | error e' => exact hx.first e (by simpa [Except.map] using he)
    | ok a => cases he

theorem exists_ok_iff (hx : Blames vars list x) : (∃ a, x = .ok a) ↔ ∀ v ∈ list, v.Fits vars := by
  constructor
  · rintro ⟨a, ha⟩
    exact hx.fits a ha
  · intro h
    cases x with
    | ok a => exact ⟨a, rfl⟩
    | error e =>
      obtain ⟨v, hv, -⟩ := hx.first e rfl
      exact absurd (h v hv.mem.1) hv.mem.2

end Blames

theorem blames_singleton {v : Checked} {x : Except ConfigError α} (hok : (∃ a, x = .ok a) ↔ v.Fits vars)
    (hname : ∀ e, x = .error e → e.name = v.name) : Blames vars [v] x where
  fits a ha := List.forall_mem_singleton.2 (hok.1 ⟨a, ha⟩)
  first := by
    intro e he
    refine ⟨v, .here fun hfits => ?_, hname e he⟩
    obtain ⟨a, ha⟩ := hok.2 hfits
    rw [he] at ha
    cases ha

theorem blames_reading {v : Checked} {reader : String → Except String α} {spells : String → α → Prop}
    (hreader : ∀ s a, reader s = .ok a ↔ spells s a)
    (hv : v.Fits vars ↔ ∀ s, Holds vars v.name s → ∃ a, spells s a) :
    Blames vars [v] (reading vars v.name reader) := by
  refine blames_singleton ?_ fun e => name_of_reading_eq_error
  rw [hv, ← exists_gives_iff]
  exact exists_congr fun found => reading_eq_ok_iff hreader

theorem blames_issuer (vars : Variables) : Blames vars [.issuer] (issuer vars) :=
  blames_singleton (exists_congr fun _ => issuer_eq_ok_iff) fun _ => name_of_issuer_eq_error

theorem blames_contractAddress (vars : Variables) : Blames vars [.contract] (contractAddress vars) :=
  blames_reading (v := .contract) readAddress_eq_ok_iff Iff.rfl

theorem blames_chainId (vars : Variables) : Blames vars [.chain] (chainId vars) :=
  blames_reading (v := .chain) readWord64_eq_ok_iff Iff.rfl

theorem blames_interval (vars : Variables) : Blames vars [.interval] (interval vars) :=
  (blames_reading (v := .interval) readInterval_eq_ok_iff Iff.rfl).map _

theorem blames_read (vars : Variables) : Blames vars Checked.all (read vars) :=
  (blames_issuer vars).bind fun _ => (blames_contractAddress vars).bind fun _ => (blames_chainId vars).bind fun _ =>
    (blames_interval vars).bind fun _ => .ok _

/-- What a variable gives, or something else if it gives nothing. -/
def GivesOr (vars : Variables) (name : String) (spells : String → α → Prop) (default a : α) : Prop :=
  ∃ found, Gives vars name spells found ∧ a = found.getD default

theorem givesOr_eq_iff {default : String} :
    GivesOr vars name Eq default s ↔ s = (setting? vars name).getD default := by
  simp [GivesOr, gives_eq_iff]

theorem interval_eq_ok_iff :
    interval vars = .ok ms ↔ GivesOr vars "BALANCE_POLL_INTERVAL_MS" SpellsInterval defaultPollInterval ms := by
  simp only [GivesOr, interval, ← reading_eq_ok_iff readInterval_eq_ok_iff]
  cases reading vars "BALANCE_POLL_INTERVAL_MS" readInterval <;> simp [Except.map, eq_comm]

/-- A configuration that says what the variables say. -/
structure Describes (vars : Variables) (c : Config) : Prop where
  issuer : Holds vars "TFT_ASSET_ISSUER" c.asset.issuer
  code : GivesOr vars "TFT_ASSET_CODE" Eq Stellar.tokenCode c.asset.code
  contract : Gives vars "CONTRACT_ADDRESS" SpellsAddress c.contract
  chain : Gives vars "EVM_CHAIN_ID" SpellsWord64 c.chain
  interval : GivesOr vars "BALANCE_POLL_INTERVAL_MS" SpellsInterval defaultPollInterval c.pollInterval
  horizon : GivesOr vars "STELLAR_HORIZON_URL" Eq defaultHorizon c.horizon
  bridge : Gives vars "BRIDGE_TFT_ADDRESS" Eq c.bridge
  rpc : Gives vars "EVM_RPC_URL" Eq c.rpc
  network : GivesOr vars "STELLAR_ENV" Eq defaultNetwork c.network

theorem read_eq_ok_iff_describes : read vars = .ok c ↔ Describes vars c := by
  rw [read_eq_ok_iff, issuer_eq_ok_iff, contractAddress, reading_eq_ok_iff readAddress_eq_ok_iff, chainId,
    reading_eq_ok_iff readWord64_eq_ok_iff, interval_eq_ok_iff]
  constructor
  · rintro ⟨⟨hissuer, hcontract, hchain, hinterval⟩, hcode, hhorizon, hbridge, hrpc, hnetwork⟩
    exact ⟨hissuer, givesOr_eq_iff.2 hcode, hcontract, hchain, hinterval, givesOr_eq_iff.2 hhorizon,
      gives_eq_iff.2 hbridge.symm, gives_eq_iff.2 hrpc.symm, givesOr_eq_iff.2 hnetwork⟩
  · intro h
    exact ⟨⟨h.issuer, h.contract, h.chain, h.interval⟩, givesOr_eq_iff.1 h.code, givesOr_eq_iff.1 h.horizon,
      (gives_eq_iff.1 h.bridge).symm, (gives_eq_iff.1 h.rpc).symm, givesOr_eq_iff.1 h.network⟩

theorem interval_pos (h : interval vars = .ok ms) : 0 < ms := by
  obtain ⟨found, hfound, rfl⟩ := interval_eq_ok_iff.1 h
  cases hfound with
  | unset => decide
  | set _ hspells => exact hspells.2

def consulted : List String :=
  Checked.all.map Checked.name ++
    ["TFT_ASSET_CODE", "STELLAR_HORIZON_URL", "BRIDGE_TFT_ADDRESS", "EVM_RPC_URL", "STELLAR_ENV"]

theorem read_congr (h : ∀ name ∈ consulted, ∀ s, Holds vars' name s ↔ Holds vars name s) :
    read vars' = read vars := by
  have hsame : ∀ name ∈ consulted, setting? vars' name = setting? vars name :=
    fun name hname => setting?_congr (h name hname)
  simp only [consulted, Checked.all, Checked.name, List.map_cons, List.map_nil, List.cons_append, List.nil_append,
    List.forall_mem_cons] at hsame
  obtain ⟨hissuer, hcontract, hchain, hinterval, hcode, hhorizon, hbridge, hrpc, hnetwork, -⟩ := hsame
  simp only [read, issuer, contractAddress, chainId, interval, reading, assetCode, hissuer, hcontract, hchain,
    hinterval, hcode, hhorizon, hbridge, hrpc, hnetwork]

/-- Values of a variable that differ in white space around one text, or of which one is blank and one unset. -/
inductive Alike : Option String → Option String → Prop
  | unset : Alike none none
  | padded {core value value' : String} :
      Text.Padded core value → Text.Padded core value' → Alike (some value) (some value')
  | blank_unset {value : String} : (∀ x ∈ value.toList, Text.isBlank x) → Alike (some value) none
  | unset_blank {value : String} : (∀ x ∈ value.toList, Text.isBlank x) → Alike none (some value)

theorem not_holds_of_blank {value : String} (hvalue : vars name = some value)
    (hblank : ∀ x ∈ value.toList, Text.isBlank x) : ¬ Holds vars name s := by
  rintro ⟨value', hvalue', rfl, hne⟩
  obtain rfl : value = value' := Option.some.inj (hvalue.symm.trans hvalue')
  exact hne (Text.trim_eq_empty_iff.2 hblank)

theorem not_holds_of_unset (hvalue : vars name = none) : ¬ Holds vars name s := by
  rintro ⟨value, hvalue', -⟩
  rw [hvalue] at hvalue'
  cases hvalue'

theorem Alike.holds_iff (h : Alike (vars name) (vars' name)) : Holds vars' name s ↔ Holds vars name s := by
  generalize hvalue : vars name = value, hvalue' : vars' name = value' at h
  cases h with
  | unset => exact iff_of_false (not_holds_of_unset hvalue') (not_holds_of_unset hvalue)
  | padded hcore hcore' =>
    simp only [Holds, hvalue, hvalue', Option.some.injEq, exists_eq_left', hcore.trim_eq, hcore'.trim_eq]
  | blank_unset hblank => exact iff_of_false (not_holds_of_unset hvalue') (not_holds_of_blank hvalue hblank)
  | unset_blank hblank => exact iff_of_false (not_holds_of_blank hvalue' hblank) (not_holds_of_unset hvalue)

end TokenBridge.Config
