import TokenBridge.Balance.View
import TokenBridge.Command.Basic
import TokenBridge.Deposit
import TokenBridge.Evm.Client
import TokenBridge.Evm.Coin
import TokenBridge.Evm.Deployment
import TokenBridge.Stellar.Horizon

namespace TokenBridge.Command

open Stellar (Asset AddressError Horizon)

inductive Failure
  | address (e : AddressError)
  | amount (e : AmountError)
  | network (e : NetworkError)
  | config (e : ConfigError)
  | memo (e : MemoError)
  | deposit (e : Deposit.Refusal)
  | unreadArtifact (path reason : String)
  deriving DecidableEq, Repr

def Failure.causes : Failure → List String
  | .address e => [e.message]
  | .amount e => [e.message]
  | .network e => [e.message]
  | .config e => [e.message]
  | .memo e => [e.message]
  | .deposit e => [e.message]
  | .unreadArtifact path reason => ["Failed to read artifact " ++ path, reason]

inductive Query
  | print (line : String)
  | warn (line : String)
  | artifact (path : String)
  | fetch (url : Url)
  | node (query : Node.Query)
  deriving DecidableEq, Repr

abbrev Answer : Query → Type
  | .print _ => Unit
  | .warn _ => Unit
  | .artifact _ => Except String String
  | .fetch _ => Http.Answer
  | .node query => Node.Answer query

abbrev Talk := Dialogue Query Answer

abbrev Attempt := ExceptT Failure Talk

def say (line : String) : Attempt Unit :=
  ExceptT.mk (.ask (.print line) fun _ => .done (.ok ()))

def warn (line : String) : Attempt Unit :=
  ExceptT.mk (.ask (.warn line) fun _ => .done (.ok ()))

def decided {ε α : Type} (failure : ε → Failure) (result : Except ε α) : Attempt α :=
  ExceptT.mk (.done (result.mapError failure))

def remotely {α : Type} (talk : Node.Attempt α) : Attempt α :=
  ExceptT.mk do
    let result ← talk.run.relay fun query => .ask (.node query) .done
    return result.mapError .network

def fetch (url : Url) : Talk Http.Answer :=
  .ask (.fetch url) .done

def lookUp (horizon : Horizon) (asset : Asset) (destination : String) : Attempt String :=
  ExceptT.mk do
    let result ← Stellar.Destination.validate (horizon.account fetch) asset destination
    return result.mapError .address

def assetOf (args : HorizonArguments) (vars : Variables) : Except ConfigError Asset :=
  match args.issuer with
  | some issuer => .ok ⟨Config.assetCode vars, issuer⟩
  | none => do return (← Config.read vars).asset

def horizonUrl (args : HorizonArguments) (vars : Variables) : String :=
  match args.url with
  | some url => url
  | none => (vars "STELLAR_HORIZON_URL").getD defaultHorizon

def horizonSettings (args : HorizonArguments) (vars : Variables) : Except Failure (Horizon × Asset) := do
  let asset ← (assetOf args vars).mapError .config
  let horizon ← (Horizon.read (horizonUrl args vars)).mapError .network
  return (horizon, asset)

def interval (flag : Option Nat) (vars : Variables) : Except ConfigError Nat :=
  match flag with
  | some ms => .ok (max ms 1)
  | none => Config.interval vars

def deployBytecode (args : DeployArguments) (bytecode : Bytes) : Attempt Unit := do
  let deployment ← remotely
    (Deployment.deploy args.chain.provider args.chain.network args.key.expose bytecode)
  say ("Wallet balance: " ++ Coin.format deployment.deployerBalance)
  say ("Token deployed to: " ++ deployment.address.checksummed)
  say ("Transaction: " ++ deployment.transaction.text)

def deployFile (args : DeployArguments) (file : Except String String) : Attempt Unit := do
  let json ← decided (.unreadArtifact args.artifact) file
  let bytecode ← decided .network (Artifact.bytecode json)
  deployBytecode args bytecode

def runDeploy (args : DeployArguments) : Attempt Unit :=
  ExceptT.mk (.ask (.artifact args.artifact) fun file => (deployFile args file).run)

def withdrawnLine (e : Contract.Withdrawn) : String :=
  "Withdraw: " ++ Amount.formatBalance e.tokens ++ " TFT from " ++ e.receiver.checksummed ++
    " to " ++ e.destination ++ " on " ++ e.network

def withdrawalClient (args : WithdrawArguments) : Attempt (Client × Address) := do
  let client ← remotely (Client.connect args.chain.provider args.token args.chain.network)
  let client ← decided .network (client.withSigner args.key.expose)
  match client.signerAccount with
  | some account => return (client.withNetwork args.network, account)
  | none => throw (.network (.contractCall "no signer configured"))

def confirmDestination (args : WithdrawArguments) (vars : Variables) (destination : String) :
    Attempt Unit := do
  if args.checkDestination then
    let (horizon, asset) ← decided id (horizonSettings args.horizon vars)
    let _ ← lookUp horizon asset destination

def sendWithdrawal (client : Client) (signer : Address) (raw : Word) (destination : String) :
    Attempt Unit := do
  let receipt ← remotely (client.withdraw raw destination)
  say ("Transaction: " ++ receipt.transaction.text)
  (Contract.Withdrawn.ofLogs receipt.logs).forM fun e => say (withdrawnLine e)
  let remaining ← remotely (client.balanceOf signer)
  say ("TFT balance: " ++ Amount.formatBalance remaining)

/-- The two balances do not depend on each other and may be asked for at once; here they are asked for in one fixed
order. -/
def runWithdraw (args : WithdrawArguments) (vars : Variables) : Attempt Unit := do
  let destination ← decided .address (Stellar.Destination.ofString args.destination)
  let requested ← decided .amount (Amount.parse args.amount)
  let (client, signer) ← withdrawalClient args
  let native ← remotely client.nativeBalance
  let balance ← remotely (client.balanceOf signer)
  say ("Network: chain " ++ toString client.chain)
  say ("Signer: " ++ signer.checksummed)
  say ("Wallet balance: " ++ Coin.format native)
  say ("TFT balance: " ++ Amount.formatBalance balance)
  let amount ← decided .amount (Withdrawal.validateAmount requested balance)
  confirmDestination args vars destination
  sendWithdrawal client signer amount.raw destination

def runBalance (args : BalanceArguments) : Attempt Unit := do
  let client ← remotely (Client.connect args.chain.provider args.token args.chain.network)
  let info ← remotely client.info
  let raw ← remotely (client.balanceOf args.account)
  say (info.symbol ++ " balance of " ++ args.account.checksummed ++ ": " ++ Amount.formatBalance raw)

structure Watch where
  client : Client
  account : Address
  interval : Nat
  deriving DecidableEq

def Watch.look (w : Watch) : Talk String := do
  let answer ← (w.client.balanceOf w.account).run.relay fun query => .ask (.node query) .done
  return (Balance.View.ofAnswer answer).display

def startWatch (args : WatchArguments) (vars : Variables) : Attempt Watch := do
  let interval ← decided .config (interval args.interval vars)
  let chain := args.balance.chain
  let client ← remotely (Client.connect chain.provider args.balance.token chain.network)
  return ⟨client, args.balance.account, interval⟩

def runMemo (args : MemoArguments) : Attempt Unit := do
  let value := Text.trim args.value
  if args.decode then
    let address ← decided .memo (Memo.decode value)
    say address.checksummed
  else
    let memo ← decided .memo (Memo.encode value)
    say memo.text

def runDepositInfo (args : DepositArguments) : Attempt Unit := do
  let dialog := Deposit.Dialog.start args.bridge args.account
  warn ("WARNING: " ++ Deposit.memoWarning)
  let dialog := if args.acceptWarning then dialog.acknowledge else dialog
  let instructions ← decided .deposit dialog.instructions
  say ("Destination: " ++ instructions.destination)
  say ("Memo: " ++ instructions.memo.text)
  say ("QR payload: " ++ instructions.qrPayload)

def runCheckDestination (args : DestinationArguments) (vars : Variables) : Attempt Unit := do
  let (horizon, asset) ← decided id (horizonSettings args.horizon vars)
  let address ← lookUp horizon asset args.destination
  say (address ++ " exists and trusts " ++ asset.code ++ ":" ++ asset.issuer)

def run (command : Command) (vars : Variables) : Attempt (Option Watch) :=
  match command with
  | .deploy args => do runDeploy args; return none
  | .withdraw args => do runWithdraw args vars; return none
  | .balance args => do runBalance args; return none
  | .watchBalance args => do return some (← startWatch args vars)
  | .memo args => do runMemo args; return none
  | .depositInfo args => do runDepositInfo args; return none
  | .checkDestination args => do runCheckDestination args vars; return none

def exitCode {α : Type} : Except Failure α → Nat
  | .ok _ => 0
  | .error _ => 1

end TokenBridge.Command
