import TokenBridge.Config
import TokenBridge.Proofs.Evm.Address
import TokenBridge.Proofs.Except
import TokenBridge.Proofs.Numeral
import TokenBridge.Proofs.Text.Trim

namespace TokenBridge

def ConfigError.name : ConfigError → String
  | .missing name => name
  | .invalid name _ => name

namespace Config

variable {α : Type} {vars vars' : Variables} {c : Config} {name s t : String}

theorem setting?_eq_some_iff :
    setting? vars name = some s ↔ ∃ value, vars name = some value ∧ s = Text.trim value ∧ s ≠ "" := by
  rw [setting?]
  cases vars name with
  | none => simp
  | some value =>
    simp only [Option.some.injEq, exists_eq_left']
    split
    · next hblank =>
      constructor
      · rintro ⟨⟩
      · rintro ⟨rfl, hne⟩
        exact absurd hblank hne
    · next hne =>
      constructor
      · rintro ⟨⟩
        exact ⟨rfl, hne⟩
      · rintro ⟨rfl, -⟩
        rfl

theorem setting?_eq_none_iff :
    setting? vars name = none ↔ ∀ value, vars name = some value → Text.trim value = "" := by
  rw [setting?]
  cases vars name with
  | none => simp
  | some value => simp

theorem read_eq_ok_iff :
    read vars = .ok c ↔
      (issuer vars = .ok c.asset.issuer ∧ contractAddress vars = .ok c.contract ∧ chainId vars = .ok c.chain ∧
        interval vars = .ok c.pollInterval) ∧
      c.asset.code = assetCode vars ∧
      c.horizon = (setting? vars "STELLAR_HORIZON_URL").getD defaultHorizon ∧
      c.bridge = setting? vars "BRIDGE_TFT_ADDRESS" ∧ c.rpc = setting? vars "EVM_RPC_URL" ∧
      c.network = (setting? vars "STELLAR_ENV").getD defaultNetwork := by
  simp only [read, bind_eq_ok_iff]
  constructor
  · rintro ⟨issuer, hissuer, contract, hcontract, chain, hchain, pollInterval, hinterval, ⟨⟩⟩
    exact ⟨⟨hissuer, hcontract, hchain, hinterval⟩, rfl, rfl, rfl, rfl, rfl⟩
  · rintro ⟨⟨hissuer, hcontract, hchain, hinterval⟩, hcode, hhorizon, hbridge, hrpc, hnetwork⟩
    refine ⟨_, hissuer, _, hcontract, _, hchain, _, hinterval, ?_⟩
    rw [← hcode, ← hhorizon, ← hbridge, ← hrpc, ← hnetwork]
    rfl

/-- The text of a variable, without the white space around it. A blank variable holds none. -/
def Holds (vars : Variables) (name s : String) : Prop :=
  ∃ value, vars name = some value ∧ s = Text.trim value ∧ s ≠ ""

theorem holds_iff : Holds vars name s ↔ setting? vars name = some s :=
  setting?_eq_some_iff.symm

theorem setting?_congr (h : ∀ s, Holds vars' name s ↔ Holds vars name s) :
    setting? vars' name = setting? vars name :=
  Option.ext fun s => by simpa only [holds_iff] using h s

/-- What a variable is read as: nothing if it holds no text, or else what its text spells. -/
inductive Gives (vars : Variables) (name : String) (spells : String → α → Prop) : Option α → Prop
  | unset : (∀ s, ¬ Holds vars name s) → Gives vars name spells none
  | set {s : String} {a : α} : Holds vars name s → spells s a → Gives vars name spells (some a)

variable {spells : String → α → Prop} {found : Option α}

theorem gives_of_setting?_eq_none (h : setting? vars name = none) : Gives vars name spells found ↔ found = none := by
  have hunset : ∀ s, ¬ Holds vars name s := by simp [holds_iff, h]
  constructor
  · rintro (_ | ⟨hs, -⟩)
    · rfl
    · exact absurd hs (hunset _)
  · rintro rfl
    exact .unset hunset

theorem gives_of_setting?_eq_some (h : setting? vars name = some s) :
    Gives vars name spells found ↔ ∃ a, spells s a ∧ found = some a := by
  constructor
  · rintro (hunset | ⟨ht, hspells⟩)
    · exact absurd (holds_iff.2 h) (hunset s)
    · rw [holds_iff, h, Option.some.injEq] at ht
      exact ⟨_, ht ▸ hspells, rfl⟩
  · rintro ⟨a, hspells, rfl⟩
    exact .set (holds_iff.2 h) hspells

theorem exists_gives_iff :
    (∃ found, Gives vars name spells found) ↔ ∀ s, Holds vars name s → ∃ a, spells s a := by
  cases h : setting? vars name with
  | none => simp [gives_of_setting?_eq_none h, holds_iff, h]
  | some s => simp [gives_of_setting?_eq_some h, holds_iff, h]

theorem gives_eq_iff {found : Option String} : Gives vars name Eq found ↔ setting? vars name = found := by
  cases h : setting? vars name with
  | none => rw [gives_of_setting?_eq_none h, eq_comm]
  | some s => simp [gives_of_setting?_eq_some h, eq_comm]

theorem reading_eq_ok_iff {reader : String → Except String α} (hreader : ∀ s a, reader s = .ok a ↔ spells s a) :
    reading vars name reader = .ok found ↔ Gives vars name spells found := by
  rw [reading]
  cases h : setting? vars name with
  | none => simp [gives_of_setting?_eq_none h, eq_comm]
  | some s =>
    rw [gives_of_setting?_eq_some h]
    simp only [← hreader]
    cases reader s with
    | ok a => simp [eq_comm]
    | error reason => simp

theorem name_of_reading_eq_error {reader : String → Except String α} {e : ConfigError}
    (h : reading vars name reader = .error e) : e.name = name := by
  rw [reading] at h
  split at h
  · cases h
  · split at h
    · cases h
    · cases h
      rfl

def SpellsAddress (s : String) (a : Address) : Prop :=
  Hex.Spelling a.bytes s.toList

def SpellsWord64 (s : String) (n : ℕ) : Prop :=
  Numeral.Writes s.toList n ∧ n < 2 ^ 64

def SpellsInterval (s : String) (ms : ℕ) : Prop :=
  SpellsWord64 s ms ∧ 0 < ms

theorem readAddress_eq_ok_iff (s : String) (a : Address) : readAddress s = .ok a ↔ SpellsAddress s a := by
  rw [readAddress, mapError_eq_ok_iff, Address.read_eq_ok_iff, SpellsAddress, Hex.spelling_iff]
  exact ⟨fun h => ⟨h.isDigit, h.lower_eq⟩, fun h => ⟨h.1, h.2⟩⟩

theorem readWord64_eq_ok_iff (s : String) (n : ℕ) : readWord64 s = .ok n ↔ SpellsWord64 s n := by
  rw [readWord64, mapError_eq_ok_iff, Numeral.read64_eq_ok_iff, SpellsWord64]

theorem readInterval_eq_ok_iff (s : String) (ms : ℕ) : readInterval s = .ok ms ↔ SpellsInterval s ms := by
  simp only [readInterval, bind_eq_ok_iff, readWord64_eq_ok_iff, SpellsInterval]
  constructor
  · rintro ⟨n, hspells, hms⟩
    split at hms
    · cases hms
    · next hne =>
      cases hms
      exact ⟨hspells, Nat.pos_of_ne_zero hne⟩
  · rintro ⟨hspells, hpos⟩
    exact ⟨ms, hspells, if_neg hpos.ne'⟩

theorem issuer_eq_ok_iff : issuer vars = .ok s ↔ Holds vars "TFT_ASSET_ISSUER" s := by
  rw [holds_iff, issuer]
  cases setting? vars "TFT_ASSET_ISSUER" <;> simp

theorem name_of_issuer_eq_error {e : ConfigError} (h : issuer vars = .error e) : e.name = "TFT_ASSET_ISSUER" := by
  rw [issuer] at h
  split at h
  · cases h
  · cases h
    rfl

end Config
end TokenBridge
