import TokenBridge.Balance.Monitor
import TokenBridge.Main
import TokenBridge.Wallet.Hub
import TokenBridge.Withdrawal.History
import TokenBridge.Proofs.Dialogue
import TokenBridge.Proofs.Stellar.Destination
import TokenBridge.Proofs.Withdrawal.History
import TokenBridge.Proofs.Amount.BaseUnits
import TokenBridge.Proofs.Withdrawal.AmountField
import TokenBridge.Proofs.Withdrawal.DestinationField
import TokenBridge.Proofs.Wallet.Session
import TokenBridge.Proofs.Wallet.Subscription
import TokenBridge.Proofs.Balance.AtRest
import TokenBridge.Proofs.Evm.Abi
import TokenBridge.Proofs.Evm.Contract
import TokenBridge.Proofs.Evm.Node
import TokenBridge.Proofs.Evm.Client
import TokenBridge.Proofs.Command.Talk
import TokenBridge.Proofs.Command.Withdraw
import TokenBridge.Proofs.Wallet.Replay
import TokenBridge.Proofs.Withdrawal.Dispatch
import TokenBridge.Proofs.Withdrawal.Generation
import TokenBridge.Proofs.Base64.Canonical
import TokenBridge.Proofs.Base64.Reader
import TokenBridge.Proofs.Memo
import TokenBridge.Proofs.Decimal.Normal
import TokenBridge.Proofs.Withdrawal.Reset
import TokenBridge.Proofs.Wallet.Hub
import TokenBridge.Proofs.Balance.Order
import TokenBridge.Proofs.Balance.Polling
import TokenBridge.Proofs.Hex
import TokenBridge.Proofs.Withdrawal.Independence
import TokenBridge.Proofs.Command.Memo
import TokenBridge.Proofs.Url.Percent
import TokenBridge.Proofs.Url.Segment
import TokenBridge.Proofs.Stellar.Horizon
import TokenBridge.Proofs.Url.Reader
import TokenBridge.Proofs.Command.Horizon
import TokenBridge.Proofs.Command.Settings
import TokenBridge.Proofs.Config.Decision
import TokenBridge.Proofs.Wallet.Supported
import TokenBridge.Proofs.Evm.Withdrawn
import TokenBridge.Proofs.Url.Form
import TokenBridge.Proofs.Deposit
import TokenBridge.Proofs.Evm.Deployment
import TokenBridge.Proofs.Command.Deploy
import TokenBridge.Proofs.Evm.Chain
import TokenBridge.Proofs.Amount.Magnitude
import TokenBridge.Proofs.Decimal.Literal
import TokenBridge.Proofs.Withdrawal.Judgement
import TokenBridge.Proofs.Amount.Reader
import TokenBridge.Proofs.Decimal.Printer
import TokenBridge.Proofs.Amount.Printer
import TokenBridge.Proofs.Withdrawal.Prefill
import TokenBridge.Proofs.Json.Token
import TokenBridge.Proofs.Json.Reader
import TokenBridge.Proofs.Json.Record
import TokenBridge.Proofs.Stellar.Account
import TokenBridge.Proofs.Evm.Artifact
import TokenBridge.Proofs.Withdrawal.Lookup
