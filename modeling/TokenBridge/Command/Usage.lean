import TokenBridge.Evm.Address
import TokenBridge.Numeral

namespace TokenBridge.Command

inductive Refusal
  | help
  | version
  | noArguments
  | noSubcommand
  | unknownSubcommand
  | unknownArgument
  | unexpectedValue
  | noValue
  | badValue
  | repeated
  | missingArgument
  deriving DecidableEq, Repr

def Refusal.exitCode : Refusal → Nat
  | .help | .version => 0
  | _ => 1

inductive ValueKind
  | text
  | path
  | number
  | address
  deriving DecidableEq, Repr

inductive Value
  | text (s : String)
  | number (n : Nat)
  | address (a : Address)
  | set
  deriving DecidableEq, Repr

def ValueKind.read (s : String) : ValueKind → Except Refusal Value
  | .text => .ok (.text s)
  | .path => if s = "" then .error .noValue else .ok (.text s)
  | .number =>
    match Numeral.read64 s with
    | .ok n => .ok (.number n)
    | .error _ => .error .badValue
  | .address =>
    match Address.read s with
    | .ok a => .ok (.address a)
    | .error _ => .error .badValue

structure Usage where
  positionals : List (String × ValueKind)
  options : List (String × ValueKind)
  flags : List String
  version : Bool

abbrev Values := List (String × Value)

structure Waiting where
  name : String
  kind : ValueKind
  value : Option String

structure Progress where
  waiting : Option Waiting
  values : Values
  position : Nat
  onlyValues : Bool

namespace Progress

def start : Progress :=
  ⟨none, [], 0, false⟩

def store (p : Progress) (name : String) (value : Except Refusal Value) : Except Refusal Progress :=
  if (p.values.lookup name).isSome then .error .repeated
  else do
    let value ← value
    return { p with values := p.values ++ [(name, value)] }

def settle (p : Progress) : Except Refusal Progress :=
  match p.waiting with
  | none => .ok p
  | some ⟨_, _, none⟩ => .error .noValue
  | some ⟨name, kind, some s⟩ => { p with waiting := none }.store name (kind.read s)

def setFlag (p : Progress) (name : String) : Except Refusal Progress := do
  (← p.settle).store name (.ok .set)

def refuse (p : Progress) (r : Refusal) : Except Refusal Progress := do
  let _ ← p.settle
  .error r

def long (u : Usage) (p : Progress) (name : String) (attached : Option String) :
    Except Refusal Progress :=
  match u.options.lookup name with
  | some kind =>
    match attached with
    | some s => do (← p.settle).store name (kind.read s)
    | none => do return { ← p.settle with waiting := some ⟨name, kind, none⟩ }
  | none =>
    let isFlag := u.flags.contains name || name = "verbose"
    let isHelp := name = "help"
    let isVersion := name = "version" && u.version
    if !(isFlag || isHelp || isVersion) then .error .unknownArgument
    else if attached.isSome then .error .unexpectedValue
    else if isHelp then p.refuse .help
    else if isVersion then p.refuse .version
    else p.setFlag name

def short (u : Usage) : Progress → List Char → Except Refusal Progress
  | p, [] => .ok p
  | p, c :: rest =>
    if c = 'v' then do short u (← p.setFlag "verbose") rest
    else if c = 'h' then p.refuse .help
    else if c = 'V' ∧ u.version then p.refuse .version
    else .error .unknownArgument

def dashed? (u : Usage) (p : Progress) (arg : String) : Option (Except Refusal Progress) :=
  if p.onlyValues then none
  else
    match arg.toList with
    | ['-', '-'] => some (.ok { p with onlyValues := true })
    | '-' :: '-' :: rest =>
      let name := String.ofList (rest.takeWhile (· ≠ '='))
      match rest.dropWhile (· ≠ '=') with
      | [] => some (long u p name none)
      | _ :: value => some (long u p name (some (String.ofList value)))
    | '-' :: c :: rest => some (short u p (c :: rest))
    | _ => none

def plain (u : Usage) (p : Progress) (arg : String) : Except Refusal Progress :=
  match p.onlyValues, p.waiting with
  | false, some ⟨name, kind, none⟩ => .ok { p with waiting := some ⟨name, kind, some arg⟩ }
  | _, _ =>
    match u.positionals[p.position]? with
    | some (name, kind) => do
      let p ← p.settle
      return { p with waiting := some ⟨name, kind, some arg⟩, position := p.position + 1 }
    | none => .error .unknownArgument

def take (u : Usage) (p : Progress) (arg : String) : Except Refusal Progress :=
  (dashed? u p arg).getD (plain u p arg)

end Progress

def readValues (u : Usage) (args : List String) : Except Refusal Values := do
  let p ← args.foldlM (Progress.take u) Progress.start
  return (← p.settle).values

end TokenBridge.Command
