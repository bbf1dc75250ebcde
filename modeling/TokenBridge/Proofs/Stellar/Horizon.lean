import TokenBridge.Proofs.Url.Segment
import TokenBridge.Stellar.Horizon

namespace TokenBridge.Stellar.Horizon

open Url (IsDots Verbatim behind dropEmptyEnd unbroken)

variable {h : Horizon} {list front : List (List Char)} {id other : String} {u v : Url}

theorem read_congr {s t : String} (hst : Url.cleaned s.toList = Url.cleaned t.toList) : read s = read t := by
  rw [read, read, Url.read, Url.read, Url.readChars, Url.readChars, hst]

def accountsPath (list : List (List Char)) : List (List Char) :=
  behind (dropEmptyEnd list) ++ ["accounts".toList]

def segment (h : Horizon) (id : String) : List Char :=
  Url.percentEncode (Url.isSegmentPlain (Url.kindOf h.url.scheme).isSpecial) id.toList

def withPath (h : Horizon) (path : List (List Char)) : Url :=
  { h.url with path := .segments path }

theorem behind_accountsPath : behind (accountsPath list) = accountsPath list :=
  Url.behind_append (by decide)

theorem accountsPath_ne_nil : accountsPath list ≠ [] := by
  simp [accountsPath]

theorem accountUrl_of_segments (hpath : h.url.path = .segments list) (id : String) :
    h.accountUrl id = .ok (h.withPath
      (Url.addSegment (Url.kindOf h.url.scheme).isSpecial (accountsPath list) id.toList)) := by
  have hverbatim : Verbatim "accounts".toList := ⟨by decide, by decide⟩
  have hencoded : ∀ special,
      Url.percentEncode (Url.isSegmentPlain special) "accounts".toList = "accounts".toList := by
    decide
  rw [accountUrl, Url.extended?, hpath]
  simp only [List.foldl_cons, List.foldl_nil, Url.addSegment_verbatim hverbatim, hencoded]
  rfl

theorem accountUrl_of_verbatim (hpath : h.url.path = .segments list) (hid : Verbatim id.toList) :
    h.accountUrl id = .ok (h.withPath (accountsPath list ++ [h.segment id])) := by
  rw [accountUrl_of_segments hpath, Url.addSegment_verbatim hid, behind_accountsPath]
  rfl

theorem percentDecode_segment (h : Horizon) (id : String) :
    Url.percentDecode (Text.utf8 (h.segment id)) = Text.utf8 id.toList :=
  Url.percentDecode_percentEncode Url.ascii_of_isSegmentPlain _

theorem accountUrl_inj (hpath : h.url.path = .segments list) (hid : Verbatim id.toList)
    (hother : Verbatim other.toList) (hu : h.accountUrl id = .ok u) (hv : h.accountUrl other = .ok v)
    (htext : u.text = v.text) : id = other := by
  rw [accountUrl_of_verbatim hpath hid] at hu
  rw [accountUrl_of_verbatim hpath hother] at hv
  cases hu
  cases hv
  have hsegment := (Url.text_append_inj accountsPath_ne_nil).1 htext
  exact String.toList_injective (Url.percentEncode_injective Url.ascii_of_isSegmentPlain hsegment)

theorem accountUrl_unbroken (hpath : h.url.path = .segments list) (hid : ¬ IsDots id.toList)
    (hkept : ¬ IsDots (unbroken id.toList)) :
    h.accountUrl id = h.accountUrl (String.ofList (unbroken id.toList)) := by
  have hverbatim : Verbatim (unbroken id.toList) := ⟨Url.unbroken_unbroken _, hkept⟩
  rw [accountUrl_of_segments hpath, accountUrl_of_segments hpath, String.toList_ofList,
    Url.addSegment_unbroken hid hkept, Url.addSegment_verbatim hverbatim]

theorem accountUrl_dots (hpath : h.url.path = .segments list) (hid : IsDots id.toList) :
    h.accountUrl id = .ok (h.withPath (accountsPath list)) := by
  rw [accountUrl_of_segments hpath, Url.addSegment_dots hid]

theorem accountUrl_brokenDot (hpath : h.url.path = .segments list) (hid : ¬ IsDots id.toList)
    (hkept : unbroken id.toList = ['.']) :
    h.accountUrl id = .ok (h.withPath (accountsPath list ++ [[]])) := by
  rw [accountUrl_of_segments hpath, Url.addSegment_eq hid, hkept, if_neg (by decide), if_pos rfl,
    behind_accountsPath]

theorem accountUrl_brokenDots (hpath : h.url.path = .segments list) (hid : ¬ IsDots id.toList)
    (hkept : unbroken id.toList = ['.', '.']) :
    h.accountUrl id = .ok (h.withPath (behind (dropEmptyEnd list) ++ [[]])) := by
  rw [accountUrl_of_segments hpath, Url.addSegment_eq hid, if_pos hkept, behind_accountsPath, accountsPath,
    List.dropLast_concat]

end TokenBridge.Stellar.Horizon
