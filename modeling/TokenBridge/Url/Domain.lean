import TokenBridge.Text.Unshown
import TokenBridge.Url.Basic
import TokenBridge.Url.Fold
import TokenBridge.Url.Punycode

namespace TokenBridge.Url

def forbiddenInDomain : List Char :=
  " %#/:<>?@[\\]^|".toList

def isForbiddenInDomain (c : Char) : Bool :=
  c.toNat < 32 || c.toNat = 127 || forbiddenInDomain.contains c

def isAscii (c : Char) : Bool :=
  c.toNat < 128

def labelMark : List Char := "xn--".toList

def asciiLabel? (label : List Char) : Option (List Char) :=
  if labelMark.isPrefixOf label then do
    let decoded ← Punycode.decode? (label.drop labelMark.length)
    if decoded.all isAscii ∨ decoded.filterMap fold? ≠ decoded then none
    else if Punycode.encode decoded = label.drop labelMark.length then some label
    else none
  else some label

def labelToAscii? (label : List Char) : Option (List Char) :=
  if label.all isAscii then asciiLabel? label
  else if labelMark.isPrefixOf label ∨ (label.head?.map Text.isUnshown) = some true then none
  else some (labelMark ++ Punycode.encode label)

def joinLabels : List (List Char) → List Char
  | [] => []
  | [l] => l
  | l :: rest => l ++ '.' :: joinLabels rest

def domainToAscii? (s : List Char) : Option (List Char) := do
  let labels ← (splitAt (· = '.') (s.filterMap fold?)).mapM labelToAscii?
  let name := joinLabels labels
  if name.any isForbiddenInDomain then none else some name

end TokenBridge.Url
