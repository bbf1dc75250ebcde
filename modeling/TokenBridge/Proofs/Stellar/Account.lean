import TokenBridge.Proofs.Json.Reader
import TokenBridge.Proofs.Json.Record
import TokenBridge.Proofs.Stellar.Destination

namespace TokenBridge.Stellar

namespace TrustLine

def fields : List Json.Field :=
  [.text "asset_type", .optional "asset_code", .optional "asset_issuer", .defaulted "balance"]

inductive Written (line : TrustLine) (v : Json) : Prop
  | intro {code issuer balance : List Json} :
      v.Shaped 4 →
      v.held ["asset_type", "asset_code", "asset_issuer", "balance"] =
        [[.text line.assetType], code, issuer, balance] →
      Json.Optional line.assetCode code → Json.Optional line.assetIssuer issuer →
      Json.Defaulted line.balance balance → Written line v

variable {line : TrustLine} {v : Json}

theorem ofJson_eq_some_iff : ofJson v = some line ↔ line.Written v := by
  constructor
  · intro h
    obtain ⟨values, hvalues, h⟩ := Option.bind_eq_some_iff.1 h
    obtain ⟨hshaped, hheld⟩ := Json.fields?_eq_some_iff.1 hvalues
    split at h
    · next type code issuer balance =>
      simp only [bind, pure, Option.bind_eq_some_iff, Option.some.injEq] at h
      obtain ⟨assetType, htype, assetCode, hcode, assetIssuer, hissuer, amount, hamount, rfl⟩ := h
      refine .intro hshaped ?_ (Json.optional_iff.2 ⟨_, rfl, hcode⟩) (Json.optional_iff.2 ⟨_, rfl, hissuer⟩)
        (Json.defaulted_iff.2 ⟨_, rfl, hamount⟩)
      rw [hheld, ← Json.requiredString_eq_some_iff.1 htype]
      rfl
    · cases h
  · rintro ⟨hshaped, hheld, hcode, hissuer, hbalance⟩
    obtain ⟨code, rfl, hcodeRead⟩ := Json.optional_iff.1 hcode
    obtain ⟨issuer, rfl, hissuerRead⟩ := Json.optional_iff.1 hissuer
    obtain ⟨balance, rfl, hbalanceRead⟩ := Json.defaulted_iff.1 hbalance
    have hfields : v.fields? ["asset_type", "asset_code", "asset_issuer", "balance"] =
        some [some (.text line.assetType), code, issuer, balance] := Json.fields?_eq_some_iff.2 ⟨hshaped, hheld⟩
    rw [ofJson, hfields]
    simp only [bind, pure, Option.bind_some, Json.requiredString_text, hcodeRead, hissuerRead, hbalanceRead]

theorem Written.not_flawed (h : line.Written v) : ¬ v.Flawed fields := by
  obtain ⟨-, hheld, hcode, hissuer, hbalance⟩ := h
  refine Json.not_flawed ?_
  rw [show fields.map Json.Field.name = ["asset_type", "asset_code", "asset_issuer", "balance"] from rfl, hheld]
  exact .cons Json.not_faulty_text (.cons hcode.not_faulty (.cons hissuer.not_faulty (.cons hbalance.not_faulty .nil)))

theorem written_toJson (line : TrustLine) : line.Written line.toJson := by
  obtain ⟨assetType, code, issuer, balance⟩ := line
  refine .intro (by simp [toJson, Json.record, Json.Shaped, Json.Named]) rfl ?_ ?_ (.text balance)
  · cases code <;> constructor
  · cases issuer <;> constructor

end TrustLine

namespace Account

def listField (name : String) : Json.Field :=
  ⟨name, false, fun v => ∃ items, v = .array items⟩

def fields : List Json.Field :=
  [.text "account_id", listField "balances"]

inductive LinesWritten : List TrustLine → List Json → Prop
  | absent : LinesWritten [] []
  | list {lines : List TrustLine} {items : List Json} :
      List.Forall₂ TrustLine.Written lines items → LinesWritten lines [.array items]

/-- A record with the two fields of an account and, where it is an object, anything beside them. -/
inductive Written (account : Account) (v : Json) : Prop
  | intro {balances : List Json} :
      v.Shaped 2 → v.held ["account_id", "balances"] = [[.text account.id], balances] →
      LinesWritten account.lines balances → Written account v

/-- Some field of the account is faulty, or of one of its lines. -/
inductive Flawed (v : Json) : Prop
  | account : v.Flawed fields → Flawed v
  | line {id items : List Json} {line : Json} :
      v.held ["account_id", "balances"] = [id, [.array items]] → line ∈ items → line.Flawed TrustLine.fields →
      Flawed v

variable {account : Account} {lines : List TrustLine} {found : Option Json} {v : Json} {s : List Char}

theorem linesWritten_iff {held : List Json} :
    LinesWritten lines held ↔ ∃ found : Option Json, held = found.toList ∧ linesOfJson found = some lines := by
  constructor
  · rintro (_ | ⟨hlines⟩)
    · exact ⟨none, rfl, rfl⟩
    · next items =>
      refine ⟨some (.array items), rfl, Json.mapM_eq_some_iff.2 ?_⟩
      exact (hlines.imp fun _ _ hline => TrustLine.ofJson_eq_some_iff.2 hline).flip
  · rintro ⟨found, rfl, h⟩
    unfold linesOfJson at h
    split at h
    · cases h
      exact .absent
    · exact .list ((Json.mapM_eq_some_iff.1 h).flip.imp fun _ _ hline => TrustLine.ofJson_eq_some_iff.1 hline)
    · cases h

theorem ofJson_eq_some_iff : ofJson v = some account ↔ account.Written v := by
  constructor
  · intro h
    obtain ⟨values, hvalues, h⟩ := Option.bind_eq_some_iff.1 h
    obtain ⟨hshaped, hheld⟩ := Json.fields?_eq_some_iff.1 hvalues
    split at h
    · next id balances =>
      simp only [bind, pure, Option.bind_eq_some_iff, Option.some.injEq] at h
      obtain ⟨id, hid, lines, hlines, rfl⟩ := h
      refine .intro hshaped ?_ (linesWritten_iff.2 ⟨_, rfl, hlines⟩)
      rw [hheld, ← Json.requiredString_eq_some_iff.1 hid]
      rfl
    · cases h
  · rintro ⟨hshaped, hheld, hlines⟩
    obtain ⟨balances, rfl, hlinesRead⟩ := linesWritten_iff.1 hlines
    have hfields : v.fields? ["account_id", "balances"] = some [some (.text account.id), balances] :=
      Json.fields?_eq_some_iff.2 ⟨hshaped, hheld⟩
    rw [ofJson, hfields]
    simp only [bind, pure, Option.bind_some, Json.requiredString_text, hlinesRead]

theorem ofJson_toJson (account : Account) : ofJson account.toJson = some account := by
  refine ofJson_eq_some_iff.2 (.intro (by simp [toJson, Json.record, Json.Shaped, Json.Named]) rfl (.list ?_))
  exact List.forall₂_map_right_iff.2 (List.forall₂_same.2 fun line _ => line.written_toJson)

theorem Written.not_flawed (h : account.Written v) : ¬ Flawed v := by
  obtain ⟨id, lines⟩ := account
  obtain ⟨-, hheld, hlines⟩ := h
  rintro (hflawed | ⟨hitems, hline, hflawed⟩)
  · refine Json.not_flawed ?_ hflawed
    rw [show fields.map Json.Field.name = ["account_id", "balances"] from rfl, hheld]
    refine .cons Json.not_faulty_text (.cons ?_ .nil)
    cases hlines with
    | absent => exact Json.Field.not_faulty_nil rfl
    | list => exact Json.Field.not_faulty_singleton ⟨_, rfl⟩
  · rw [hheld] at hitems
    cases hitems
    obtain _ | hlines := hlines
    have hsound := hlines.flip.imp fun v (line : TrustLine) (hline : line.Written v) => And.intro hline.not_flawed hline
    exact ((List.forall₂_and_left ..).1 hsound).1 _ hline hflawed

theorem read_eq_some_iff (hs : v.Writes s) : read s = some account ↔ account.Written v := by
  rw [← ofJson_eq_some_iff, read, Json.read_eq_some_iff.2 hs]
  rfl

theorem read_spelling (hs : v.Writes s) :
    (∀ account : Account, read s = some account ↔ account.Written v) ∧
      (Flawed v → read s = none) ∧
      ∀ account : Account, account.Written v → ∀ (v' : Json) (s' : List Char), v'.Writes s' → account.Written v' →
        ∀ asset : Asset,
          (read s').map (·.trusts asset) = (read s).map (·.trusts asset) ∧
            ((read s).map (·.trusts asset) = some true ↔
              ∃ line ∈ account.lines, line.assetCode = some asset.code ∧ line.assetIssuer = some asset.issuer) := by
  refine ⟨fun account => read_eq_some_iff hs, fun hflawed => ?_, ?_⟩
  · refine Option.eq_none_iff_forall_ne_some.2 fun account hread => ?_
    exact ((read_eq_some_iff hs).1 hread).not_flawed hflawed
  · intro account hv v' s' hs' hv' asset
    rw [(read_eq_some_iff hs).2 hv, (read_eq_some_iff hs').2 hv']
    exact ⟨rfl, Option.some_inj.trans trusts_iff⟩

def spelledText : List Char :=
  " \x7b\"balances\" :[\x7b\"limit\":1e999,\"asset_code\":null,\"asset_type\":\"native\"\x7d,\n".toList ++
    "\x7b\"asset_issuer\":\"GI\",\"asset_type\":\"credit_alphanum4\",".toList ++
    "\"balance\":\"1\",\"asset_code\":\"T\\u0046T\"\x7d],".toList ++
    "\"\\u0061ccount_id\":\"GA\",\"memo\":\"\\ud800\",\"memo\":[]\x7d\n".toList

def spelled : Json :=
  .object
    [(some "balances", .array
      [.object [(some "limit", .number ['1', 'e', '9', '9', '9']), (some "asset_code", .null),
        (some "asset_type", .text "native")],
       .object [(some "asset_issuer", .text "GI"), (some "asset_type", .text "credit_alphanum4"),
        (some "balance", .text "1"), (some "asset_code", .text "TFT")]]),
     (some "account_id", .text "GA"), (some "memo", .string none), (some "memo", .array [])]

theorem spelled_writes : spelled.Writes spelledText :=
  Json.lexed_of_tokens (by decide +kernel)

def spelledAccount : Account :=
  ⟨"GA", [⟨"native", none, none, ""⟩, ⟨"credit_alphanum4", some "TFT", some "GI", "1"⟩]⟩

theorem spelledAccount_written : spelledAccount.Written spelled := by
  refine .intro (by simp [spelled, Json.Shaped, Json.Named]) rfl (.list (.cons ?_ (.cons ?_ .nil)))
  · exact .intro (by simp [Json.Shaped, Json.Named]) rfl .null .absent .absent
  · exact .intro (by simp [Json.Shaped, Json.Named]) rfl (.text "TFT") (.text "GI") (.text "1")

def typelessText : List Char :=
  "\x7b\"account_id\":\"GA\",\"balances\":[\x7b\"asset_type\":null\x7d]\x7d".toList

def typeless : Json :=
  .object [(some "account_id", .text "GA"), (some "balances", .array [.object [(some "asset_type", .null)]])]

theorem typeless_flawed : Flawed typeless := by
  refine .line rfl (List.mem_singleton_self _) ⟨(.text "asset_type", [.null]), List.mem_cons_self, ?_⟩
  exact .kind (List.mem_singleton_self _) (by rintro ⟨s, ⟨⟩⟩)

theorem read_spelling_reordered :
    spelled.Writes spelledText ∧ read spelledText = some spelledAccount ∧
      (read spelledText).map (·.trusts ⟨"TFT", "GI"⟩) = some true ∧
      typeless.Writes typelessText ∧ read typelessText = none := by
  have hspelling := read_spelling spelled_writes
  have htrusts := hspelling.2.2 _ spelledAccount_written _ _ spelled_writes spelledAccount_written ⟨"TFT", "GI"⟩
  have htypeless : typeless.Writes typelessText := Json.lexed_of_tokens (by decide +kernel)
  exact ⟨spelled_writes, (hspelling.1 _).2 spelledAccount_written, htrusts.2.2 (by decide), htypeless,
    (read_spelling htypeless).2.1 typeless_flawed⟩

theorem read_unnamed_member :
    (Json.object [(some "account_id", .text "GA"), (none, .number ['0'])]).Writes
        "\x7b\"account_id\":\"GA\",\"\\ud800\":0\x7d".toList ∧
      Json.valuesAt [(some "account_id", .text "GA"), (none, .number ['0'])] "account_id" = [.text "GA"] ∧
      Json.valuesAt [(some "account_id", .text "GA"), (none, .number ['0'])] "balances" = [] ∧
      read "\x7b\"account_id\":\"GA\",\"\\ud800\":0\x7d".toList ≠ some ⟨"GA", []⟩ := by
  refine ⟨Json.lexed_of_tokens (by decide +kernel), rfl, rfl, by decide +kernel⟩

end Account
end TokenBridge.Stellar
