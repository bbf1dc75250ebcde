import TokenBridge.Url.Address
import TokenBridge.Url.Classes
import TokenBridge.Url.Domain

namespace TokenBridge.Url

inductive Fault
  | noScheme
  | emptyHost
  | badDomain
  | badDomainCharacter
  | badPort
  | badIpv4
  | badIpv6
  deriving DecidableEq, Repr

def Fault.message : Fault → String
  | .noScheme => "relative URL without a base"
  | .emptyHost => "empty host"
  | .badDomain => "invalid international domain name"
  | .badDomainCharacter => "invalid domain character"
  | .badPort => "invalid port number"
  | .badIpv4 => "invalid IPv4 address"
  | .badIpv6 => "invalid IPv6 address"

def isTabOrNewline (c : Char) : Bool :=
  c = '\t' || c = '\n' || c = '\r'

def isControlOrSpace (c : Char) : Bool :=
  c.toNat ≤ 32

def cleaned (s : List Char) : List Char :=
  let s := s.dropWhile isControlOrSpace
  (s.reverse.dropWhile isControlOrSpace).reverse.filter (!isTabOrNewline ·)

def isSchemeChar (c : Char) : Bool :=
  c.isAlphanum || c = '+' || c = '-' || c = '.'

def splitScheme (s : List Char) : Option (List Char × List Char) :=
  match s with
  | [] => none
  | c :: _ =>
    if !c.isAlpha then none
    else
      match s.dropWhile isSchemeChar with
      | ':' :: rest => some ((s.takeWhile isSchemeChar).map Char.toLower, rest)
      | _ => none

def isSlash (special : Bool) (c : Char) : Bool :=
  c = '/' || (special && c = '\\')

def isPathEnd (c : Char) : Bool :=
  c = '?' || c = '#'

def isAuthorityEnd (special : Bool) (c : Char) : Bool :=
  isSlash special c || isPathEnd c

def splitUserinfo (s : List Char) : Option (List Char × List Char) :=
  if s.contains '@' then
    let host := (s.reverse.takeWhile (· ≠ '@')).reverse
    some (s.take (s.length - host.length - 1), host)
  else none

def readUserinfo (s : List Char) : List Char × List Char :=
  (percentEncode isUserinfoPlain (s.takeWhile (· ≠ ':')),
   percentEncode isUserinfoPlain ((s.dropWhile (· ≠ ':')).drop 1))

def splitHost : Bool → List Char → List Char × List Char
  | _, [] => ([], [])
  | inside, c :: rest =>
    if c = ':' ∧ inside = false then ([], c :: rest)
    else
      let inside := if c = '[' then true else if c = ']' then false else inside
      let (host, after) := splitHost inside rest
      (c :: host, after)

def bracketed (s : List Char) : Except Fault Host :=
  match s.drop 1 with
  | [] => .error .badIpv6
  | inner =>
    if inner.getLast? = some ']' then
      match ipv6? inner.dropLast with
      | some groups => .ok (.ipv6 groups)
      | none => .error .badIpv6
    else .error .badIpv6

def readDomain (s : List Char) : Except Fault Host :=
  match Text.ofUtf8? (percentDecode (Text.utf8 s)) with
  | none => .error .badDomain
  | some decoded =>
    match domainToAscii? decoded with
    | none => .error .badDomain
    | some name =>
      if name.isEmpty then .error .emptyHost
      else if endsInNumber name then
        match ipv4? name with
        | some n => .ok (.ipv4 n)
        | none => .error .badIpv4
      else .ok (.name name)

def forbiddenInHost : List Char :=
  "\x00\t\n\r #/:<>?@[\\]^|".toList

def readPlainHost (s : List Char) : Except Fault Host :=
  if s.any forbiddenInHost.contains then .error .badDomainCharacter
  else .ok (.name (percentEncode isPrintable s))

def readHost (kind : Kind) (s : List Char) : Except Fault Host :=
  if s.head? = some '[' then bracketed s
  else if kind.isSpecial then
    if s.isEmpty then .error .emptyHost else readDomain s
  else readPlainHost s

def readPortNumber : Nat → List Char → Except Fault Nat
  | n, [] => .ok n
  | n, c :: rest =>
    let m := 10 * n + (c.toNat - 48)
    if 65535 < m then .error .badPort else readPortNumber m rest

def readPort (scheme s : List Char) : Except Fault (Option Nat × List Char) := do
  let digits := s.takeWhile isDigit
  let after := s.dropWhile isDigit
  let port ← readPortNumber 0 digits
  match after with
  | [] => pure ()
  | c :: _ => if c = '\\' then pure () else .error .badPort
  if digits.isEmpty ∨ defaultPort? scheme = some port then return (none, after)
  else return (some port, after)

def readAuthority (scheme : List Char) (kind : Kind) (s : List Char) :
    Except Fault (Authority × List Char) := do
  let chunk := s.takeWhile (!isAuthorityEnd kind.isSpecial ·)
  let rest := s.dropWhile (!isAuthorityEnd kind.isSpecial ·)
  let (userinfo, hostAndPort) := (splitUserinfo chunk).getD ([], chunk)
  if chunk.head? = some '@' ∧ userinfo.isEmpty ∧ hostAndPort.isEmpty ∧ !rest.isEmpty then
    .error .emptyHost
  else
    let (username, password) := readUserinfo userinfo
    let (hostText, after) := splitHost false hostAndPort
    let host ← readHost kind hostText
    if host = .name [] ∧ (!after.isEmpty ∨ !username.isEmpty ∨ !password.isEmpty) then
      .error .emptyHost
    else
      match after with
      | ':' :: portText => do
        let (port, after) ← readPort scheme portText
        return (⟨username, password, host, port⟩, after ++ rest)
      | _ => return (⟨username, password, host, none⟩, after ++ rest)

def isSingleDot (s : List Char) : Bool :=
  s = ['.'] || s.map Char.toLower = "%2e".toList

def isDoubleDot (s : List Char) : Bool :=
  s = "..".toList || [".%2e", "%2e.", "%2e%2e"].any fun t => s.map Char.toLower = t.toList

def resolveDots : List (List Char) → List (List Char) → List (List Char)
  | done, [] => done.reverse
  | done, [last] =>
    if isDoubleDot last then ([] :: done.drop 1).reverse
    else if isSingleDot last then ([] :: done).reverse
    else (last :: done).reverse
  | done, s :: rest =>
    if isDoubleDot s then resolveDots (done.drop 1) rest
    else if isSingleDot s then resolveDots done rest
    else resolveDots (s :: done) rest

def readSegments (special : Bool) (s : List Char) : List (List Char) :=
  resolveDots [] ((splitAt (isSlash special) s).map (percentEncode isPathPlain))

def readPath (special : Bool) (s : List Char) : List (List Char) :=
  match s with
  | [] => if special then [[]] else []
  | c :: rest => if isSlash special c then readSegments special rest else readSegments special s

def readTail (special : Bool) (s : List Char) : Option (List Char) × Option (List Char) :=
  let query :=
    match s with
    | '?' :: rest => some (percentEncode (isQueryPlain special) (rest.takeWhile (· ≠ '#')))
    | _ => none
  let fragment :=
    match s.dropWhile (· ≠ '#') with
    | _ :: rest => some (percentEncode isFragmentPlain rest)
    | [] => none
  (query, fragment)

def assemble (scheme : List Char) (special : Bool) (authority : Option Authority)
    (pathOf : List Char → Path) (s : List Char) : Url :=
  let (query, fragment) := readTail special (s.dropWhile (!isPathEnd ·))
  ⟨scheme, authority, pathOf (s.takeWhile (!isPathEnd ·)), query, fragment⟩

def fileSegments (segments : List (List Char)) : List (List Char) :=
  match segments.dropWhile (·.isEmpty) with
  | [] => [[]]
  | rest => rest

def readFileHost (s : List Char) : Except Fault Host := do
  if s.isEmpty then return .name []
  else
    let host ← if s.head? = some '[' then bracketed s else readDomain s
    return if host = .name "localhost".toList then .name [] else host

/-- A URL of a file. Drive letters have no meaning here: `C|` stays as it is written, and like any other segment it
can be taken back by two dots. -/
def readFile (scheme s : List Char) : Except Fault Url := do
  let (host, rest) ←
    match s with
    | a :: b :: rest =>
      if isSlash true a && isSlash true b then do
        let host ← readFileHost (rest.takeWhile (!isAuthorityEnd true ·))
        pure (host, rest.dropWhile (!isAuthorityEnd true ·))
      else pure (.name [], s)
    | _ => pure (.name [], s)
  return assemble scheme true (some ⟨[], [], host, none⟩)
    (fun path => .segments (fileSegments (readSegments true path))) rest

def readBehindSlashes (scheme : List Char) (kind : Kind) (s : List Char) : Except Fault Url := do
  let (authority, rest) ← readAuthority scheme kind s
  return assemble scheme kind.isSpecial (some authority)
    (fun path => .segments (readPath kind.isSpecial path)) rest

def readOther (scheme : List Char) : List Char → Except Fault Url
  | '/' :: '/' :: rest => readBehindSlashes scheme .other rest
  | '/' :: rest =>
    .ok (assemble scheme false none (fun path => .segments (readSegments false path)) rest)
  | s => .ok (assemble scheme false none
      (fun path => .text (percentEncode isPrintable path)) s)

def readChars (s : List Char) : Except Fault Url :=
  match splitScheme (cleaned s) with
  | none => .error .noScheme
  | some (scheme, rest) =>
    match kindOf scheme with
    | .file => readFile scheme rest
    | .web => readBehindSlashes scheme .web (rest.dropWhile (isSlash true))
    | .other => readOther scheme rest

def read (s : String) : Except Fault Url :=
  readChars s.toList

end TokenBridge.Url
