import TokenBridge.Json.Basic

namespace TokenBridge

structure Redacted (α : Type) where
  secret : α
  deriving DecidableEq

namespace Redacted

variable {α : Type}

def expose (r : Redacted α) : α :=
  r.secret

def text (_ : Redacted α) : String :=
  "<redacted>"

def listing (values : List (Redacted α)) : String :=
  "[\n" ++ String.join (values.map fun r => "    " ++ r.text ++ ",\n") ++ "]"

def toJson (r : Redacted α) : Json :=
  .text r.text

end Redacted
end TokenBridge
