import TokenBridge.Dialogue
import TokenBridge.Evm.Contract
import TokenBridge.Evm.Key
import TokenBridge.Http
import TokenBridge.NetworkError

namespace TokenBridge.Node

inductive Fault
  | transport (fault : Http.Fault)
  | status (code : Nat) (body : String)
  | refused (code : Int) (message : String) (data : Option String)
  deriving DecidableEq, Repr

def Fault.message : Fault → String
  | .transport fault => fault.message
  | .status code body => "HTTP error " ++ toString code ++ " with body: " ++ body
  | .refused code message data =>
      "server returned an error response: error code " ++ toString code ++ ": " ++ message ++
        match data with
        | some data => ", data: " ++ data
        | none => ""

structure Draft where
  sender : Address
  receiver : Option Address
  input : Bytes
  deriving DecidableEq, Repr

structure Fees where
  maximum : Nat
  priority : Nat
  deriving DecidableEq, Repr

structure Transaction where
  sender : Address
  receiver : Option Address
  value : Word
  nonce : Nat
  chain : Nat
  gasLimit : Nat
  fees : Fees
  input : Bytes
  deriving DecidableEq, Repr

structure Receipt where
  transaction : Hash
  succeeded : Bool
  logs : List Contract.Log
  created : Option Address
  deriving DecidableEq, Repr

inductive Question
  | chain
  | balance (account : Address)
  | call (contract : Address) (data : Bytes)
  | nonce (account : Address)
  | gas (draft : Draft)
  | fees
  | send (transaction : Transaction)
  | receipt (transaction : Hash)
  deriving DecidableEq, Repr

abbrev Question.Value : Question → Type
  | .chain => Nat
  | .balance _ => Word
  | .call _ _ => Bytes
  | .nonce _ => Nat
  | .gas _ => Nat
  | .fees => Fees
  | .send _ => Hash
  | .receipt _ => Receipt

structure Query where
  node : Url
  question : Question
  deriving DecidableEq, Repr

abbrev Answer (q : Query) : Type :=
  Except Fault q.question.Value

def unanswered (q : Query) : Answer q :=
  .error (.transport (Http.fault q.node))

abbrev Talk := Dialogue Query Answer

abbrev Attempt := ExceptT NetworkError Talk

def decided {α : Type} (result : Except NetworkError α) : Attempt α :=
  ExceptT.mk (.done result)

def ask (node : Url) (blame : Fault → NetworkError) (question : Question) : Attempt question.Value :=
  ExceptT.mk (.ask ⟨node, question⟩ fun answer => .done (answer.mapError blame))

def plainly (fault : Fault) : NetworkError :=
  .contractCall fault.message

def trying (what : String) (fault : Fault) : NetworkError :=
  .contractCall (what ++ ": " ++ fault.message)

/-- Asks the node for whatever the draft leaves open, the chain among it, and sends the transaction. These questions
do not depend on one another and may be asked at once; here they are asked in one fixed order. Only transactions
with the two fees of a fee market are described. The plain gas price, to which a sender may fall back on a chain
without such a market, is left out. -/
def send (node : Url) (blame : Fault → NetworkError) (draft : Draft) : Attempt Hash := do
  let chain ← ask node blame .chain
  let nonce ← ask node blame (.nonce draft.sender)
  let gasLimit ← ask node blame (.gas draft)
  let fees ← ask node blame .fees
  ask node blame (.send
    { sender := draft.sender
      receiver := draft.receiver
      value := Word.zero
      nonce
      chain
      gasLimit
      fees
      input := draft.input })

def requireChain (node : Url) (chain : Nat) : Attempt Unit := do
  let actual ← ask node plainly .chain
  if actual = chain then pure () else throw (.wrongChain chain actual)

def readUrl (s : String) : Except NetworkError Url :=
  match Url.read s with
  | .ok url => .ok url
  | .error e => .error (.contractCall ("Invalid RPC URL: " ++ e.message))

def readKey (s : String) : Except NetworkError Key :=
  match Key.read s with
  | .ok key => .ok key
  | .error e => .error (.contractCall ("Invalid private key: " ++ e.message))

end TokenBridge.Node
