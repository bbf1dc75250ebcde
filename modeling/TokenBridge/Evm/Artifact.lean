import TokenBridge.Hex
import TokenBridge.Json.Bounded
import TokenBridge.Json.Reader
import TokenBridge.Json.Record
import TokenBridge.NetworkError

namespace TokenBridge

structure Artifact where
  name : Option String
  bytecodeText : String
  deriving DecidableEq, Repr

namespace Artifact

def bytecodeText? (v : Json) : Option String :=
  if !v.isBounded then none
  else
    match v with
    | .string text => text
    | .object members => do Json.requiredString (← Json.member? members "object")
    | _ => none

def ofJson (v : Json) : Option Artifact := do
  match ← v.fields? ["contractName", "bytecode"] with
  | [name, some code] => return ⟨← Json.optionalString name, ← bytecodeText? code⟩
  | _ => none

def bytecode (json : String) : Except NetworkError Bytes :=
  match Json.read json.toList >>= ofJson with
  | none => .error (.contractCall "Invalid artifact: not the record of a compiled contract")
  | some artifact =>
    match Hex.read artifact.bytecodeText with
    | .error e => .error (.contractCall ("Invalid bytecode: " ++ e.message))
    | .ok [] =>
      .error (.contractCall ("Artifact " ++ artifact.name.getD "<unnamed>" ++
        " has no bytecode (abstract contract or interface?)"))
    | .ok bytes => .ok bytes

end Artifact
end TokenBridge
