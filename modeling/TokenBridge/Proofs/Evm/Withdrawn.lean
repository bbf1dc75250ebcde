import Mathlib.Data.List.ReduceOption
import TokenBridge.Evm.Contract
import TokenBridge.Proofs.Evm.Abi

namespace TokenBridge.Contract.Withdrawn

/-- Some bytes hold a text: its length in bytes, its UTF-8, and as many zeros as fill up the last word. -/
def Holds (bytes : Bytes) (s : String) : Prop :=
  ∃ zeros < 32, 32 ∣ (Text.utf8 s.toList).length + zeros ∧
    bytes = bigEndian 32 (Text.utf8 s.toList).length ++ Text.utf8 s.toList ++ List.replicate zeros 0

/-- The entry that a withdrawal leaves in the log, whichever contract writes it. The two texts stand behind three
words: the tokens, and the places of the texts. -/
structure Records (l : Log) (e : Withdrawn) : Prop where
  topics : l.topics = [topic, List.replicate 12 0 ++ e.receiver.bytes]
  data : ∃ destination network, Holds destination e.destination ∧ Holds network e.network ∧
    l.data = bigEndian 32 e.tokens.val ++ bigEndian 32 96 ++ bigEndian 32 (96 + destination.length) ++
      destination ++ network

/-- What an entry tells of: a withdrawal that fits into memory, or nothing. -/
inductive Tells : Log → Option Withdrawn → Prop
  | withdrawal {l : Log} {e : Withdrawn} : Records l e → l.data.length < 2 ^ 64 → Tells l (some e)
  | nothing {l : Log} : l.topics.length < 2 ∨ l.topics.head? ≠ some topic → Tells l none

variable {l : Log} {e : Withdrawn} {event : Option Withdrawn} {bytes : Bytes} {s : String}

theorem tail_text (s : String) :
    Abi.tail .text s = bigEndian 32 (Text.utf8 s.toList).length ++ Text.utf8 s.toList ++
      List.replicate ((32 - (Text.utf8 s.toList).length % 32) % 32) 0 :=
  (List.append_assoc _ _ _).symm

theorem holds_iff : Holds bytes s ↔ bytes = Abi.tail .text s := by
  rw [Holds, tail_text]
  constructor
  · rintro ⟨zeros, hlt, hdvd, hbytes⟩
    have hzeros : (32 - (Text.utf8 s.toList).length % 32) % 32 = zeros := by omega
    rw [hbytes, hzeros]
  · intro hbytes
    exact ⟨_, Nat.mod_lt _ (by decide), by omega, hbytes⟩

theorem topics_log (e : Withdrawn) : e.log.topics = [topic, List.replicate 12 0 ++ e.receiver.bytes] := by
  simp only [log, Abi.encode, Abi.heads, Abi.tails, Abi.head, Abi.tail, List.append_nil, Abi.wordSize, Address.size]

theorem data_log (e : Withdrawn) :
    e.log.data = bigEndian 32 e.tokens.val ++ bigEndian 32 96 ++
      bigEndian 32 (96 + (Abi.tail .text e.destination).length) ++
        Abi.tail .text e.destination ++ Abi.tail .text e.network := by
  have hnil : Abi.tail .word e.tokens = [] := rfl
  simp only [log, Abi.encode, Abi.heads, Abi.tails, Abi.head, hnil, Word.bytes, Abi.wordSize,
    List.length_cons, List.length_nil, List.append_assoc, List.append_nil, List.nil_append]

theorem records_iff : Records l e ↔ l = e.log := by
  constructor
  · rintro ⟨htopics, destination, network, hdestination, hnetwork, hdata⟩
    rw [holds_iff.1 hdestination, holds_iff.1 hnetwork, ← data_log] at hdata
    rw [← topics_log] at htopics
    exact congrArg₂ Log.mk htopics hdata
  · rintro rfl
    exact ⟨topics_log e, _, _, holds_iff.2 rfl, holds_iff.2 rfl, data_log e⟩

theorem ofLog?_log (hfits : e.log.data.length < 2 ^ 64) : ofLog? e.log = some e := by
  have hreceiver : Abi.decodeLoosely [.address] (Abi.encode [.address] (e.receiver, ())) =
      some (e.receiver, ()) :=
    Abi.decodeLoosely_encode (by simp [Abi.encode, Abi.heads, Abi.tails, Abi.tail, Abi.wordSize])
  have hdata : Abi.decodeLoosely [.word, .text, .text]
      (Abi.encode [.word, .text, .text] (e.tokens, e.destination, e.network, ())) =
      some (e.tokens, e.destination, e.network, ()) := Abi.decodeLoosely_encode hfits
  simp only [ofLog?, log, hreceiver, hdata]
  rfl

theorem ofLog?_foreign (h : l.topics.length < 2 ∨ l.topics.head? ≠ some topic) : ofLog? l = none := by
  rw [ofLog?]
  split
  · next first second more htopics =>
    rw [htopics] at h
    rcases h with hshort | hother
    · simp only [List.length_cons] at hshort
      omega
    · exact if_neg fun hfirst => hother (congrArg some hfirst)
  · rfl

theorem ofLog?_of_tells (h : Tells l event) : ofLog? l = event := by
  cases h with
  | withdrawal hrecords hfits =>
    rw [records_iff] at hrecords
    subst hrecords
    exact ofLog?_log hfits
  | nothing hforeign => exact ofLog?_foreign hforeign

theorem ofLogs_recovers {logs : List Log} {events : List (Option Withdrawn)}
    (h : List.Forall₂ Tells logs events) : ofLogs logs = events.reduceOption := by
  induction h with
  | nil => rfl
  | @cons l event logs events hl _ ih =>
    rw [ofLogs] at ih ⊢
    rw [List.filterMap_cons, ofLog?_of_tells hl, ih]
    cases event with
    | none => rfl
    | some e => rfl

def transferTopic : Bytes :=
  [0xDD, 0xF2, 0x52, 0xAD, 0x1B, 0xE2, 0xC8, 0x9B, 0x69, 0xC2, 0xB0, 0x68, 0xFC, 0x37, 0x8D, 0xAA, 0x95, 0x2B,
    0xA7, 0xF1, 0x63, 0xC4, 0xA1, 0x16, 0x28, 0xF5, 0x5A, 0x4D, 0xF5, 0x23, 0xB3, 0xEF]

theorem ofLogs_recovers_mixed :
    let long : Withdrawn := ⟨Address.zero, ⟨15000000, by decide⟩, "GDESTINATIONÄTHATFILLSONEWHOLEWORD", "stellar"⟩
    let blank : Withdrawn := ⟨Address.zero, Word.zero, "", ""⟩
    let logs : List Log := [⟨[], long.log.data⟩, ⟨[topic], long.log.data⟩, long.log,
      ⟨transferTopic :: long.log.topics.tail, long.log.data⟩, blank.log, long.log]
    let events := [none, none, some long, none, some blank, some long]
    List.Forall₂ Tells logs events ∧ ofLogs logs = [long, blank, long] := by
  intro long blank logs events
  have hlong : Tells long.log (some long) := .withdrawal (records_iff.2 rfl) (by decide +kernel)
  have hblank : Tells blank.log (some blank) := .withdrawal (records_iff.2 rfl) (by decide +kernel)
  have hother : (transferTopic :: long.log.topics.tail).head? ≠ some topic := by decide +kernel
  have h : List.Forall₂ Tells logs events :=
    .cons (.nothing (.inl (by decide))) <| .cons (.nothing (.inl (by decide))) <| .cons hlong <|
      .cons (.nothing (.inr hother)) <| .cons hblank <| .cons hlong .nil
  exact ⟨h, ofLogs_recovers h⟩

end TokenBridge.Contract.Withdrawn
