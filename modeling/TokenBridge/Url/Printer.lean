import TokenBridge.Url.Address

namespace TokenBridge.Url

def Host.text : Host → List Char
  | .name text => text
  | .ipv4 number => ipv4Text number
  | .ipv6 groups => '[' :: ipv6Text groups ++ [']']

def Authority.userinfo (a : Authority) : List Char :=
  if a.username.isEmpty ∧ a.password.isEmpty then []
  else a.username ++ (if a.password.isEmpty then [] else ':' :: a.password) ++ ['@']

def Authority.text (a : Authority) : List Char :=
  a.userinfo ++ a.host.text ++
    match a.port with
    | some port => ':' :: Numeral.digits port
    | none => []

def segmentsText (segments : List (List Char)) : List Char :=
  segments.flatMap ('/' :: ·)

def Path.chars : Path → List Char
  | .segments list => segmentsText list
  | .text chars => chars

/-- The part between scheme and path. A path that begins with two slashes is kept from looking like an authority by
the mark `/.`, which is no part of the URL but is chosen by the path whenever the URL is written. -/
def leadText (u : Url) : List Char :=
  match u.authority with
  | some a => '/' :: '/' :: a.text
  | none =>
    match u.path with
    | .segments ([] :: _ :: _) => ['/', '.']
    | _ => []

def partText (mark : Char) : Option (List Char) → List Char
  | some s => mark :: s
  | none => []

def chars (u : Url) : List Char :=
  u.scheme ++ ':' :: u.leadText ++ u.path.chars ++ partText '?' u.query ++ partText '#' u.fragment

def text (u : Url) : String :=
  String.ofList u.chars

end TokenBridge.Url
