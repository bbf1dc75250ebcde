import TokenBridge.Evm.Address

namespace TokenBridge.Wallet

inductive ConnectError
  | noProvider
  | unsupportedChain (chain : Nat)
  | userRejected
  | unknown (text : String)
  deriving DecidableEq, Repr

def ConnectError.message : ConnectError → String
  | .noProvider =>
      "No Ethereum browser extension detected, install MetaMask on desktop or visit from a dApp " ++
        "browser on mobile."
  | .unsupportedChain _ => "You're connected to an unsupported network."
  | .userRejected => "Please authorize this website to access your Ethereum account."
  | .unknown _ => "An unknown error occurred. Check the console for more details."

structure Connection where
  account : Address
  chain : Nat
  deriving DecidableEq, Repr

inductive State
  | disconnected
  | connected (connection : Connection)
  | failed (error : ConnectError)
  deriving DecidableEq, Repr

def State.connection? : State → Option Connection
  | .connected c => some c
  | _ => none

inductive Event
  | connected (connection : Connection)
  | accountChanged (account : Address)
  | chainChanged (chain : Nat)
  | disconnected
  deriving DecidableEq, Repr

def Event.apply : Event → Option Connection → Option Connection
  | .connected c, _ => some c
  | .accountChanged account, c => c.map fun c => { c with account := account }
  | .chainChanged chain, c => c.map fun c => { c with chain := chain }
  | .disconnected, _ => none

structure Session where
  supported : List Nat
  state : State
  events : List Event
  deriving DecidableEq, Repr

namespace Session

def new (supported : List Nat) : Session :=
  ⟨supported, .disconnected, []⟩

def account? (s : Session) : Option Address :=
  s.state.connection?.map (·.account)

def isConnected (s : Session) : Bool :=
  s.state.connection?.isSome

def supports (s : Session) (chain : Nat) : Bool :=
  s.supported.isEmpty || s.supported.contains chain

def emit (s : Session) (e : Event) : Session :=
  { s with events := s.events ++ [e] }

def fail (s : Session) (e : ConnectError) : Session :=
  let failed := { s with state := .failed e }
  if s.isConnected then failed.emit .disconnected else failed

def connect (s : Session) (c : Connection) : Except ConnectError Unit × Session :=
  if s.supports c.chain then (.ok (), { s with state := .connected c }.emit (.connected c))
  else (.error (.unsupportedChain c.chain), s.fail (.unsupportedChain c.chain))

def changeAccount (s : Session) (account : Address) : Session :=
  match s.state with
  | .connected c =>
    if c.account = account then s
    else { s with state := .connected { c with account := account } }.emit (.accountChanged account)
  | _ => s

def changeChain (s : Session) (chain : Nat) : Except ConnectError Unit × Session :=
  if s.supports chain then
    match s.state with
    | .connected c =>
      if c.chain = chain then (.ok (), s)
      else (.ok (), { s with state := .connected { c with chain := chain } }.emit (.chainChanged chain))
    | _ => (.ok (), s)
  else (.error (.unsupportedChain chain), s.fail (.unsupportedChain chain))

def disconnect (s : Session) : Session :=
  let gone := { s with state := .disconnected }
  if s.isConnected then gone.emit .disconnected else gone

inductive Step
  | connect (connection : Connection)
  | changeAccount (account : Address)
  | changeChain (chain : Nat)
  | disconnect
  | fail (error : ConnectError)
  deriving DecidableEq, Repr

inductive Result
  | none
  | outcome (result : Except ConnectError Unit)
  | failure (error : ConnectError)

def step (s : Session) : Step → Result × Session
  | .connect c => let (result, s) := s.connect c; (.outcome result, s)
  | .changeAccount account => (.none, s.changeAccount account)
  | .changeChain chain => let (result, s) := s.changeChain chain; (.outcome result, s)
  | .disconnect => (.none, s.disconnect)
  | .fail e => (.failure e, s.fail e)

end Session
end TokenBridge.Wallet
