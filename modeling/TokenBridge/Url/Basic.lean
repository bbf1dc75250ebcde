namespace TokenBridge.Url

inductive Host
  | name (text : List Char)
  | ipv4 (number : Nat)
  | ipv6 (groups : List Nat)
  deriving DecidableEq, Repr

structure Authority where
  username : List Char
  password : List Char
  host : Host
  port : Option Nat
  deriving DecidableEq, Repr

inductive Path
  | segments (list : List (List Char))
  | text (chars : List Char)
  deriving DecidableEq, Repr

end TokenBridge.Url

namespace TokenBridge

structure Url where
  scheme : List Char
  authority : Option Url.Authority
  path : Url.Path
  query : Option (List Char)
  fragment : Option (List Char)
  deriving DecidableEq, Repr

namespace Url

inductive Kind
  | web
  | file
  | other
  deriving DecidableEq, Repr

def Kind.isSpecial : Kind → Bool
  | .other => false
  | _ => true

def defaultPorts : List (String × Nat) :=
  [("http", 80), ("https", 443), ("ws", 80), ("wss", 443), ("ftp", 21)]

def defaultPort? (scheme : List Char) : Option Nat :=
  defaultPorts.lookup (String.ofList scheme)

def kindOf (scheme : List Char) : Kind :=
  if scheme = "file".toList then .file
  else if (defaultPort? scheme).isSome then .web
  else .other

def splitAt (p : Char → Bool) : List Char → List (List Char)
  | [] => [[]]
  | c :: rest =>
    if p c then [] :: splitAt p rest
    else
      match splitAt p rest with
      | first :: more => (c :: first) :: more
      | [] => [[c]]

end Url
end TokenBridge
