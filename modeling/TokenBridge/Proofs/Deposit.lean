import TokenBridge.Deposit
import TokenBridge.Proofs.Memo
import TokenBridge.Proofs.Turns
import TokenBridge.Proofs.Url.Form

namespace TokenBridge.Deposit

open Url (Escaped)

/-- The text between the last `opening` and the `closing` at the end. -/
structure Between (opening closing text between : List Char) : Prop where
  found : ∃ front, text = front ++ opening ++ (between ++ closing)
  last : ∀ front rest, text = front ++ opening ++ rest → (between ++ closing).length ≤ rest.length

inductive Call
  | acknowledge
  | revoke
  | instructions
  deriving DecidableEq, Repr

/-- Among some calls there is an acknowledgement, and none was taken back after the last one. -/
def Acknowledged (calls : List Call) : Prop :=
  ∃ earlier later, calls = earlier ++ .acknowledge :: later ∧ .acknowledge ∉ later ∧ .revoke ∉ later

namespace Dialog

def step (d : Dialog) : Call → Dialog
  | .acknowledge => d.acknowledge
  | .revoke => d.revoke
  | .instructions => d

def after (d : Dialog) (calls : List Call) : Dialog :=
  calls.foldl step d

structure Stands (bridge : String) (account : Address) (calls : List Call) (d : Dialog) : Prop where
  bridge : d.bridge = bridge
  account : d.account = account
  acknowledged : d.acknowledged ↔ Acknowledged calls

end Dialog

variable {bridge : String} {account : Address} {calls : List Call} {call : Call} {d : Dialog} {memo : Memo}
  {opening closing text between : List Char}

theorem Between.unique {other : List Char} (h : Between opening closing text between)
    (h' : Between opening closing text other) : other = between := by
  obtain ⟨front, hfound⟩ := h.found
  obtain ⟨front', hfound'⟩ := h'.found
  have hlength : (other ++ closing).length = (between ++ closing).length :=
    Nat.le_antisymm (h'.last _ _ hfound) (h.last _ _ hfound')
  have hrest := (List.append_inj' (hfound'.symm.trans hfound) hlength).2
  exact List.append_cancel_right hrest

theorem between_of_not_mem {rest front : List Char} {mark : Char} (hrest : mark ∉ rest)
    (hclosing : mark ∉ between ++ closing) :
    Between (mark :: rest) closing (front ++ (mark :: rest) ++ (between ++ closing)) between := by
  refine ⟨⟨front, rfl⟩, fun front' rest' hsplit => ?_⟩
  rw [List.append_assoc, List.append_assoc] at hsplit
  rcases List.append_eq_append_iff.1 hsplit with ⟨gap, rfl, hgap⟩ | ⟨gap, rfl, hgap⟩
  · rw [List.cons_append] at hgap
    cases gap with
    | nil =>
      have heq := List.append_cancel_left (List.cons.inj hgap).2
      exact Nat.le_of_eq (congrArg List.length heq)
    | cons c gap =>
      have hmem : mark ∈ rest ++ (between ++ closing) := by
        rw [(List.cons.inj hgap).2]
        simp
      rcases List.mem_append.1 hmem with h | h
      · exact absurd h hrest
      · exact absurd h hclosing
  · have hlength := congrArg List.length hgap
    simp only [List.length_append, List.length_cons] at hlength ⊢
    omega

theorem acknowledged_concat_acknowledge : Acknowledged (calls ++ [.acknowledge]) :=
  ⟨calls, [], rfl, by simp, by simp⟩

theorem not_acknowledged_concat_revoke : ¬ Acknowledged (calls ++ [.revoke]) := by
  rintro ⟨earlier, later, hsplit, -, hrevoke⟩
  rcases split_concat hsplit with ⟨-, hlast, -⟩ | ⟨init, rfl, -⟩
  · cases hlast
  · simp at hrevoke

theorem acknowledged_concat_instructions : Acknowledged (calls ++ [.instructions]) ↔ Acknowledged calls := by
  constructor
  · rintro ⟨earlier, later, hsplit, hack, hrevoke⟩
    rcases split_concat hsplit with ⟨-, hlast, -⟩ | ⟨init, rfl, hcalls⟩
    · cases hlast
    · exact ⟨earlier, init, hcalls, fun h => hack (by simp [h]), fun h => hrevoke (by simp [h])⟩
  · rintro ⟨earlier, later, rfl, hack, hrevoke⟩
    exact ⟨earlier, later ++ [.instructions], by simp, by simp [hack], by simp [hrevoke]⟩

theorem Dialog.Stands.step (h : d.Stands bridge account calls) :
    (d.step call).Stands bridge account (calls ++ [call]) := by
  obtain ⟨hbridge, haccount, hack⟩ := h
  cases call with
  | acknowledge => exact ⟨hbridge, haccount, by simp [Dialog.step, acknowledge, acknowledged_concat_acknowledge]⟩
  | revoke => exact ⟨hbridge, haccount, by simp [Dialog.step, revoke, not_acknowledged_concat_revoke]⟩
  | instructions => exact ⟨hbridge, haccount, hack.trans acknowledged_concat_instructions.symm⟩

theorem Dialog.stands_after (bridge : String) (account : Address) (calls : List Call) :
    ((start bridge account).after calls).Stands bridge account calls := by
  induction calls using List.reverseRecOn with
  | nil => exact ⟨rfl, rfl, by simp [after, start, Acknowledged]⟩
  | append_singleton calls call ih =>
    rw [after, List.foldl_concat]
    exact ih.step

theorem mem_alphabet_of_mem_memo {c : Char} (hc : c ∈ (Memo.ofAddress account).text.toList) :
    c ∈ '=' :: Base64.alphabet := by
  obtain ⟨symbols, padding, htext, hspells⟩ := Memo.canonical_ofAddress account
  rw [htext, List.mem_append] at hc
  rcases hc with hsymbol | hpad
  · exact List.mem_cons_of_mem _ (hspells.mem_alphabet c hsymbol)
  · rw [List.eq_of_mem_replicate hpad]
    exact List.mem_cons_self

theorem ascii_of_mem_memo {c : Char} (hc : c ∈ (Memo.ofAddress account).text.toList) :
    c.toNat ≤ 0x7F ∧ UInt8.ofNat c.toNat ≠ 32 ∧
      (Url.isFormPlain (UInt8.ofNat c.toNat) → (Char.ofNat (UInt8.ofNat c.toNat).toNat).isAlphanum) := by
  have hall : ('=' :: Base64.alphabet).all fun c => c.toNat ≤ 0x7F ∧ UInt8.ofNat c.toNat ≠ 32 ∧
      (Url.isFormPlain (UInt8.ofNat c.toNat) → (Char.ofNat (UInt8.ofNat c.toNat).toNat).isAlphanum) := by
    decide +kernel
  exact of_decide_eq_true (List.all_eq_true.1 hall c (mem_alphabet_of_mem_memo hc))

theorem of_mem_utf8_memo {b : UInt8} (hb : b ∈ Text.utf8 (Memo.ofAddress account).text.toList) :
    b ≠ 32 ∧ (Url.isFormPlain b → (Char.ofNat b.toNat).isAlphanum) := by
  rw [Text.utf8_of_ascii fun c hc => (ascii_of_mem_memo hc).1, List.mem_map] at hb
  obtain ⟨c, hc, rfl⟩ := hb
  exact (ascii_of_mem_memo hc).2

def encodedMemo (account : Address) : List Char :=
  Url.formEncode (Memo.ofAddress account).text.toList

theorem escaped_encodedMemo (account : Address) : Escaped (·.isAlphanum) (encodedMemo account) := by
  rw [encodedMemo, Url.formEncode_eq_percentEncode fun h => (of_mem_utf8_memo h).1 rfl]
  exact Url.escaped_percentEncode fun b hb => (of_mem_utf8_memo hb).2

theorem percentDecode_encodedMemo (account : Address) :
    Url.percentDecode (Text.utf8 (encodedMemo account)) = Text.utf8 (Memo.ofAddress account).text.toList :=
  Url.percentDecode_formEncode fun h => (of_mem_utf8_memo h).1 rfl

theorem toList_qrPayload (bridge : String) (memo : Memo) :
    (qrPayload bridge memo).toList =
      ("TFT:" ++ bridge).toList ++ "?message=".toList ++
        (Url.formEncode memo.text.toList ++ "&sender=me".toList) := by
  simp [qrPayload]

-- the name of the bridge account may itself hold both marks: the last `?message=` is the one behind it all the same
theorem between_formEncode (bridge : String) (memo : Memo) :
    Between "?message=".toList "&sender=me".toList (qrPayload bridge memo).toList
      (Url.formEncode memo.text.toList) := by
  have hencoded : '?' ∉ Url.formEncode memo.text.toList := fun hmem =>
    Url.not_mem_linkMarks_of_mem_formEncode '?' hmem (by decide)
  have hclosing : '?' ∉ Url.formEncode memo.text.toList ++ "&sender=me".toList := by simp [hencoded]
  have hopening : "?message=".toList = '?' :: "message=".toList := rfl
  rw [toList_qrPayload, hopening]
  exact between_of_not_mem (by decide) hclosing

theorem between_qrPayload (bridge : String) (account : Address) :
    Between "?message=".toList "&sender=me".toList (qrPayload bridge (Memo.ofAddress account)).toList
      (encodedMemo account) :=
  between_formEncode bridge (Memo.ofAddress account)

theorem qrPayload_inj {bridge' : String} {memo' : Memo} (h : qrPayload bridge memo = qrPayload bridge' memo') :
    bridge = bridge' ∧ memo = memo' := by
  have hbetween := between_formEncode bridge' memo'
  rw [← h] at hbetween
  have hencoded := (between_formEncode bridge memo).unique hbetween
  have hmemo : memo = memo' := by
    rw [Memo.mk.injEq, ← String.toList_inj]
    exact (Url.formEncode_injective hencoded).symm
  have hfront : ("TFT:" ++ bridge).toList = ("TFT:" ++ bridge').toList := by
    have hchars := congrArg String.toList h
    rw [toList_qrPayload, toList_qrPayload, ← hencoded] at hchars
    exact List.append_cancel_right (List.append_cancel_right hchars)
  rw [String.toList_append, String.toList_append] at hfront
  exact ⟨String.toList_inj.1 (List.append_cancel_left hfront), hmemo⟩

def details (bridge : String) (account : Address) : Instructions :=
  ⟨bridge, Memo.ofAddress account, qrPayload bridge (Memo.ofAddress account)⟩

theorem instructions_after_of_acknowledged (h : Acknowledged calls) :
    ((Dialog.start bridge account).after calls).instructions = .ok (details bridge account) := by
  obtain ⟨hbridge, haccount, hack⟩ := Dialog.stands_after bridge account calls
  rw [Dialog.instructions, if_pos (hack.2 h), hbridge, haccount]
  rfl

theorem instructions_after_of_not_acknowledged (h : ¬ Acknowledged calls) :
    ((Dialog.start bridge account).after calls).instructions = .error .acknowledgementRequired := by
  have hack := (Dialog.stands_after bridge account calls).acknowledged
  exact if_neg fun hd => h (hack.1 hd)

theorem instructions_after_eq_ok_iff {i : Instructions} :
    ((Dialog.start bridge account).after calls).instructions = .ok i ↔
      Acknowledged calls ∧ i = details bridge account := by
  constructor
  · intro hi
    by_cases h : Acknowledged calls
    · rw [instructions_after_of_acknowledged h] at hi
      cases hi
      exact ⟨h, rfl⟩
    · rw [instructions_after_of_not_acknowledged h] at hi
      cases hi
  · rintro ⟨h, rfl⟩
    exact instructions_after_of_acknowledged h

theorem details_gated_and_traceable (bridge : String) (account : Address) (calls : List Call) :
    ((∃ i, ((Dialog.start bridge account).after calls).instructions = .ok i) ↔ Acknowledged calls) ∧
      (¬ Acknowledged calls →
        ((Dialog.start bridge account).after calls).instructions = .error .acknowledgementRequired) ∧
      ∀ i, ((Dialog.start bridge account).after calls).instructions = .ok i →
        i.destination = bridge ∧ Memo.decode i.memo.text = .ok account ∧
        (∃ message, Between "?message=".toList "&sender=me".toList i.qrPayload.toList message) ∧
        ∀ message, Between "?message=".toList "&sender=me".toList i.qrPayload.toList message →
          Escaped (·.isAlphanum) message ∧
            Url.percentDecode (Text.utf8 message) = Text.utf8 i.memo.text.toList := by
  refine ⟨?_, instructions_after_of_not_acknowledged, fun i hi => ?_⟩
  · simp only [instructions_after_eq_ok_iff, exists_and_left, exists_eq, and_true]
  · obtain ⟨-, rfl⟩ := instructions_after_eq_ok_iff.1 hi
    refine ⟨rfl, Memo.decode_eq_ok_iff.2 (Memo.canonical_ofAddress account), ?_, fun message hmessage => ?_⟩
    · exact ⟨_, between_qrPayload bridge account⟩
    · obtain rfl := (between_qrPayload bridge account).unique hmessage
      exact ⟨escaped_encodedMemo account, percentDecode_encodedMemo account⟩

theorem qrPayload_tells_both (bridge : String) (memo : Memo) :
    (∃ message, Between "?message=".toList "&sender=me".toList (qrPayload bridge memo).toList message) ∧
      (∀ message, Between "?message=".toList "&sender=me".toList (qrPayload bridge memo).toList message →
        (qrPayload bridge memo).toList =
            ("TFT:" ++ bridge).toList ++ "?message=".toList ++ (message ++ "&sender=me".toList) ∧
          '&' ∉ message ∧ '=' ∉ message ∧ '?' ∉ message ∧ '#' ∉ message ∧
          Text.ofUtf8? (Url.formDecode (Text.utf8 message)) = some memo.text.toList) ∧
      ∀ bridge' memo', qrPayload bridge memo = qrPayload bridge' memo' → bridge = bridge' ∧ memo = memo' := by
  refine ⟨⟨_, between_formEncode bridge memo⟩, fun message hmessage => ?_, fun bridge' memo' => qrPayload_inj⟩
  obtain rfl := (between_formEncode bridge memo).unique hmessage
  have hmarks : ∀ c ∈ Url.linkMarks, c ∉ Url.formEncode memo.text.toList := fun c hc hmem =>
    Url.not_mem_linkMarks_of_mem_formEncode c hmem hc
  refine ⟨toList_qrPayload bridge memo, hmarks '&' (by decide), hmarks '=' (by decide), hmarks '?' (by decide),
    hmarks '#' (by decide), ?_⟩
  rw [Url.formDecode_formEncode, Text.ofUtf8?_utf8]

end TokenBridge.Deposit
