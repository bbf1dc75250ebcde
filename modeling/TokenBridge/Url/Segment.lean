import TokenBridge.Url.Reader

namespace TokenBridge.Url

def dropEmptyEnd (segments : List (List Char)) : List (List Char) :=
  if 1 < segments.length ∧ segments.getLast? = some [] then segments.dropLast else segments

def behind (segments : List (List Char)) : List (List Char) :=
  if segments = [[]] then [] else segments

def addSegment (special : Bool) (segments : List (List Char)) (s : List Char) : List (List Char) :=
  if s = ['.'] ∨ s = ['.', '.'] then segments
  else
    let encoded := percentEncode (isSegmentPlain special) (s.filter (!isTabOrNewline ·))
    if encoded = ['.', '.'] then (behind segments).dropLast ++ [[]]
    else if encoded = ['.'] then behind segments ++ [[]]
    else behind segments ++ [encoded]

/-- Adds segments behind the path, in place of an empty last segment. A URL without a path of segments cannot take
any. A mark `/.` in front of the path is not kept: `foo:/.//` with segments added is written without it. -/
def extended? (u : Url) (added : List (List Char)) : Option Url :=
  match u.path with
  | .segments list =>
    let special := (kindOf u.scheme).isSpecial
    some { u with path := .segments (added.foldl (addSegment special) (dropEmptyEnd list)) }
  | .text _ => none

def withoutCredentials (u : Url) : Url :=
  match u.authority with
  | some a =>
    if (Text.ofUtf8? (percentDecode (Text.utf8 a.username))).isSome then
      { u with authority := some { a with username := [], password := [] } }
    else u
  | none => u

end TokenBridge.Url
