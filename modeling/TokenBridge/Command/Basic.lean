import TokenBridge.Command.Usage
import TokenBridge.Config
import TokenBridge.Redacted

namespace TokenBridge

namespace Command

structure ChainArguments where
  provider : String
  network : Nat
  deriving DecidableEq, Repr

structure HorizonArguments where
  url : Option String
  issuer : Option String
  deriving DecidableEq, Repr

structure DeployArguments where
  key : Redacted String
  chain : ChainArguments
  artifact : String
  deriving DecidableEq

structure WithdrawArguments where
  token : Address
  key : Redacted String
  chain : ChainArguments
  destination : String
  amount : String
  network : String
  checkDestination : Bool
  horizon : HorizonArguments
  deriving DecidableEq

structure BalanceArguments where
  token : Address
  chain : ChainArguments
  account : Address
  deriving DecidableEq

structure WatchArguments where
  balance : BalanceArguments
  interval : Option Nat
  deriving DecidableEq

structure MemoArguments where
  value : String
  decode : Bool
  deriving DecidableEq

structure DepositArguments where
  bridge : String
  account : Address
  acceptWarning : Bool
  deriving DecidableEq

structure DestinationArguments where
  destination : String
  horizon : HorizonArguments
  deriving DecidableEq

end Command

inductive Command
  | deploy (args : Command.DeployArguments)
  | withdraw (args : Command.WithdrawArguments)
  | balance (args : Command.BalanceArguments)
  | watchBalance (args : Command.WatchArguments)
  | memo (args : Command.MemoArguments)
  | depositInfo (args : Command.DepositArguments)
  | checkDestination (args : Command.DestinationArguments)
  deriving DecidableEq

namespace Command

def defaultArtifact : String := "artifacts/contracts/tokenV1.sol/TFT.json"

def chainPositionals : List (String × ValueKind) :=
  [("PROVIDER_URL", .text), ("NETWORK_ID", .number)]

def horizonOptions : List (String × ValueKind) :=
  [("horizon-url", .text), ("asset-issuer", .text)]

def balancePositionals : List (String × ValueKind) :=
  ("TOKEN_ADDRESS", .address) :: chainPositionals ++ [("ACCOUNT", .address)]

def subcommands : List (String × Usage) :=
  [("deploy", ⟨("PRIVATE_KEY", .text) :: chainPositionals, [("artifact", .path)], [], false⟩),
   ("withdraw",
    ⟨("TOKEN_ADDRESS", .address) :: ("PRIVATE_KEY", .text) :: chainPositionals ++
        [("STELLAR_ADDRESS", .text), ("AMOUNT", .text)],
      ("network", .text) :: horizonOptions, ["check-destination"], false⟩),
   ("balance", ⟨balancePositionals, [], [], false⟩),
   ("watch-balance", ⟨balancePositionals, [("interval-ms", .number)], [], false⟩),
   ("memo", ⟨[("VALUE", .text)], [], ["decode"], false⟩),
   ("deposit-info",
    ⟨[("BRIDGE_ADDRESS", .text), ("EVM_ADDRESS", .address)], [], ["accept-memo-warning"], false⟩),
   ("check-destination", ⟨[("STELLAR_ADDRESS", .text)], horizonOptions, [], false⟩)]

namespace Values

def text? (values : Values) (name : String) : Option String :=
  match values.lookup name with
  | some (.text s) => some s
  | _ => none

def number? (values : Values) (name : String) : Option Nat :=
  match values.lookup name with
  | some (.number n) => some n
  | _ => none

def address? (values : Values) (name : String) : Option Address :=
  match values.lookup name with
  | some (.address a) => some a
  | _ => none

def isSet (values : Values) (name : String) : Bool :=
  (values.lookup name).isSome

def chain? (values : Values) : Option ChainArguments := do
  return ⟨← text? values "PROVIDER_URL", ← number? values "NETWORK_ID"⟩

def horizon (values : Values) : HorizonArguments :=
  ⟨text? values "horizon-url", text? values "asset-issuer"⟩

def balance? (values : Values) : Option BalanceArguments := do
  return ⟨← address? values "TOKEN_ADDRESS", ← chain? values, ← address? values "ACCOUNT"⟩

def command? (values : Values) : String → Option Command
  | "deploy" => do
    return .deploy ⟨⟨← text? values "PRIVATE_KEY"⟩, ← chain? values,
      (text? values "artifact").getD defaultArtifact⟩
  | "withdraw" => do
    return .withdraw
      { token := ← address? values "TOKEN_ADDRESS"
        key := ⟨← text? values "PRIVATE_KEY"⟩
        chain := ← chain? values
        destination := ← text? values "STELLAR_ADDRESS"
        amount := ← text? values "AMOUNT"
        network := (text? values "network").getD defaultNetwork
        checkDestination := isSet values "check-destination"
        horizon := horizon values }
  | "balance" => do return .balance (← balance? values)
  | "watch-balance" => do return .watchBalance ⟨← balance? values, number? values "interval-ms"⟩
  | "memo" => do return .memo ⟨← text? values "VALUE", isSet values "decode"⟩
  | "deposit-info" => do
    return .depositInfo ⟨← text? values "BRIDGE_ADDRESS", ← address? values "EVM_ADDRESS",
      isSet values "accept-memo-warning"⟩
  | "check-destination" => do
    return .checkDestination ⟨← text? values "STELLAR_ADDRESS", horizon values⟩
  | _ => none

end Values

structure Invocation where
  command : Command
  verbose : Bool
  deriving DecidableEq

def topUsage : Usage :=
  ⟨[], [], [], true⟩

def readHelp : List String → Refusal
  | [] => .help
  | [name] => if name = "help" ∨ (subcommands.lookup name).isSome then .help else .unknownSubcommand
  | _ => .unknownSubcommand

def readSubcommand (verbose : Bool) (name : String) (usage : Usage) (args : List String) :
    Except Refusal Invocation := do
  let values ← readValues usage args
  match Values.command? values name with
  | some command => return ⟨command, verbose || Values.isSet values "verbose"⟩
  | none => .error .missingArgument

def readFrom (p : Progress) : List String → Except Refusal Invocation
  | [] => .error (if p.values.isEmpty then .noArguments else .noSubcommand)
  | arg :: rest =>
    let known := arg = "help" || (subcommands.lookup arg).isSome
    if p.onlyValues then .error (if known then .unknownArgument else .unknownSubcommand)
    else if arg = "help" then .error (readHelp rest)
    else
      match subcommands.lookup arg with
      | some usage => readSubcommand (Values.isSet p.values "verbose") arg usage rest
      | none =>
        match Progress.dashed? topUsage p arg with
        | some (.ok p) => readFrom p rest
        | some (.error r) => .error r
        | none => .error .unknownSubcommand

def read (args : List String) : Except Refusal Invocation :=
  readFrom Progress.start args

end Command
end TokenBridge
