import TokenBridge.Command.Run
import TokenBridge.Proofs.Dialogue
import TokenBridge.Proofs.Memo

namespace TokenBridge.Command

open Dialogue (Runs runs_ask_iff runs_done_iff)

variable {command : Command} {args : MemoArguments} {vars : Variables} {line : String} {a : Address}

def Prints (command : Command) (vars : Variables) (line : String) : Prop :=
  ∀ exchanges result, Runs (run command vars).run exchanges result ↔
    exchanges = [⟨.print line, ()⟩] ∧ result = .ok none

theorem prints_of_runMemo (h : runMemo args = say line) : Prints (.memo args) vars line := by
  intro exchanges result
  have hrun : (run (.memo args) vars).run = .ask (.print line) fun _ => .done (.ok none) := by
    rw [run, h]
    rfl
  rw [hrun, runs_ask_iff]
  constructor
  · rintro ⟨answer, rest, rfl, hrest⟩
    obtain ⟨rfl, rfl⟩ := runs_done_iff.1 hrest
    exact ⟨rfl, rfl⟩
  · rintro ⟨rfl, rfl⟩
    exact ⟨(), [], rfl, .done _⟩

theorem prints_decoded (hdecode : args.decode = true) (h : Memo.decode (Text.trim args.value) = .ok a) :
    Prints (.memo args) vars a.checksummed := by
  refine prints_of_runMemo ?_
  rw [runMemo, if_pos hdecode, h]
  rfl

theorem prints_encoded (hencode : args.decode = false)
    (h : Memo.readAddress (Text.trim args.value) = .ok a) :
    Prints (.memo args) vars (Memo.ofAddress a).text := by
  refine prints_of_runMemo ?_
  rw [runMemo, if_neg (by simp [hencode]), Memo.encode_of_readAddress h]
  rfl

theorem prints_back {m value : String} (h : Memo.decode (Text.trim m) = .ok a)
    (hvalue : Text.trim value = Text.trim a.checksummed) :
    Prints (.memo ⟨value, false⟩) vars (Text.trim m) := by
  have hread : Memo.readAddress (Text.trim value) = .ok a := by
    rw [hvalue, Address.trim_checksummed, Memo.readAddress_eq_ok_iff]
    exact a.names_checksummed
  rw [Memo.canonical_iff_eq_ofAddress.1 (Memo.decode_eq_ok_iff.1 h)]
  exact prints_encoded rfl hread

theorem address_readings_agree :
    (∀ s, (∃ a, Memo.readAddress s = .ok a) ↔
      (Hex.unmark s.toList).length = 40 ∧ ∀ c ∈ Hex.unmark s.toList, Hex.isDigit c) ∧
    (∀ s, (∃ a, Address.read s = .ok a) ↔
      (∃ a, Memo.readAddress s = .ok a) ∨
      ∃ digits, s.toList = '0' :: 'X' :: digits ∧ digits.length = 40 ∧ ∀ c ∈ digits, Hex.isDigit c) ∧
    (∀ digits a, Address.read (String.ofList ('0' :: 'X' :: digits)) = .ok a ↔
      Memo.readAddress (String.ofList ('0' :: 'x' :: digits)) = .ok a) ∧
    (∀ s a, Memo.readAddress s = .ok a →
      Address.read s = .ok a ∧ Memo.encode s = .ok (Memo.ofAddress a) ∧
      Memo.decode (Memo.ofAddress a).text = .ok a ∧
      a.lower.toList = '0' :: 'x' :: (Hex.unmark s.toList).map Char.toLower) ∧
    (∀ a, Memo.readAddress a.lower = .ok a ∧ Address.read a.lower = .ok a ∧
      Memo.readAddress a.checksummed = .ok a ∧ Address.read a.checksummed = .ok a) ∧
    ∀ m a vars, Memo.decode (Text.trim m) = .ok a →
      Prints (.memo ⟨m, true⟩) vars a.checksummed ∧
      ∀ value, Text.trim value = Text.trim a.checksummed →
        Prints (.memo ⟨value, false⟩) vars (Text.trim m) := by
  refine ⟨?_, ?_, ?_, ?_, ?_, ?_⟩
  · intro s
    simp only [Memo.readAddress_eq_ok_iff, Address.exists_names_iff]
  · intro s
    exact Memo.exists_read_iff
  · intro digits a
    rw [Address.read_eq_ok_iff, Memo.readAddress_eq_ok_iff, String.toList_ofList, String.toList_ofList]
    rfl
  · intro s a h
    refine ⟨Memo.read_of_readAddress h, Memo.encode_of_readAddress h, ?_, ?_⟩
    · exact Memo.decode_eq_ok_iff.2 (Memo.canonical_ofAddress a)
    · rw [(Memo.readAddress_eq_ok_iff.1 h).lower_eq, Address.lower, Hex.marked, String.toList_ofList]
  · intro a
    have hlower := Memo.readAddress_eq_ok_iff.2 a.names_lower
    have hchecksummed := Memo.readAddress_eq_ok_iff.2 a.names_checksummed
    exact ⟨hlower, Memo.read_of_readAddress hlower, hchecksummed, Memo.read_of_readAddress hchecksummed⟩
  · intro m a vars h
    exact ⟨prints_decoded rfl h, fun value hvalue => prints_back h hvalue⟩

theorem address_readings_agree_padded :
    let a : Address := ⟨[0xF3, 0x9F, 0xD6, 0xE5, 0x1A, 0xAD, 0x88, 0xF6, 0xF4, 0xCE, 0x6A, 0xB8, 0x82, 0x72, 0x79,
      0xCF, 0xFF, 0xB9, 0x22, 0x66], rfl⟩
    Prints (.memo ⟨" 85/W5RqtiPb0zmq4gnJ5z/+5ImY=\n", true⟩) (fun _ => none) a.checksummed ∧
      Prints (.memo ⟨a.checksummed, false⟩) (fun _ => none) "85/W5RqtiPb0zmq4gnJ5z/+5ImY=" ∧
      Address.read "f39Fd6e51aad88F6F4ce6aB8827279cffFb92266" = .ok a := by
  intro a
  obtain ⟨-, -, -, hagree, -, hprints⟩ := address_readings_agree
  have htrim : Text.trim " 85/W5RqtiPb0zmq4gnJ5z/+5ImY=\n" = "85/W5RqtiPb0zmq4gnJ5z/+5ImY=" := by
    decide +kernel
  obtain ⟨hshown, hback⟩ := hprints " 85/W5RqtiPb0zmq4gnJ5z/+5ImY=\n" a (fun _ => none) (by decide +kernel)
  rw [htrim] at hback
  exact ⟨hshown, hback _ rfl, (hagree _ a (by decide +kernel)).1⟩

theorem address_readings_differ :
    ¬ ∀ s, (∃ a, Memo.readAddress s = .ok a) ↔ ∃ a, Address.read s = .ok a := by
  intro h
  have hdigits : ∀ c ∈ "f39Fd6e51aad88F6F4ce6aB8827279cffFb92266".toList, Hex.isDigit c :=
    List.all_eq_true.1 (by decide +kernel)
  obtain ⟨a, ha⟩ := (h "0Xf39Fd6e51aad88F6F4ce6aB8827279cffFb92266").2
    (Memo.exists_read_iff.2 (.inr ⟨_, by decide, by decide, hdigits⟩))
  exact absurd (Memo.readAddress_eq_ok_iff.1 ha).length_eq (by decide)

end TokenBridge.Command
