import TokenBridge.Json.Basic

namespace TokenBridge.Json

def member? (members : List Member) (name : String) : Option (Option Json) :=
  match members.filter (·.1 = some name) with
  | [] => some none
  | [m] => some (some m.2)
  | _ => none

def fields? (names : List String) : Json → Option (List (Option Json))
  | .object members =>
    if members.all (·.1.isSome) then names.mapM (member? members) else none
  | .array items =>
    if items.length ≤ names.length then
      some (items.map some ++ List.replicate (names.length - items.length) none)
    else none
  | _ => none

def string? : Json → Option String
  | .string text => text
  | _ => none

def requiredString : Option Json → Option String
  | some v => v.string?
  | none => none

def optionalString : Option Json → Option (Option String)
  | none => some none
  | some .null => some none
  | some v => v.string?.map some

def defaultString : Option Json → Option String
  | none => some ""
  | some v => v.string?

end TokenBridge.Json
