import TokenBridge.Command.Run

namespace TokenBridge.Command

def variableNames : List String :=
  ["STELLAR_HORIZON_URL", "TFT_ASSET_CODE", "TFT_ASSET_ISSUER", "CONTRACT_ADDRESS", "EVM_CHAIN_ID",
   "BRIDGE_TFT_ADDRESS", "EVM_RPC_URL", "STELLAR_ENV", "BALANCE_POLL_INTERVAL_MS"]

def readVariables : IO Variables := do
  let set ← variableNames.filterMapM fun name => do
    return (← IO.getEnv name).map (name, ·)
  return fun name => set.lookup name

def readArtifact (path : String) : IO (Except String String) := do
  match ← (IO.FS.readFile path).toBaseIO with
  | .ok content => return .ok content
  | .error (.noFileOrDirectory ..) =>
    return .error "No such file or directory (os error 2)"
  | .error e => return .error (toString e)

def answer : (query : Query) → IO (Answer query)
  | .print line => IO.println line
  | .warn line => IO.eprintln line
  | .artifact path => readArtifact path
  | .fetch url => return Http.unanswered url
  | .node query => return Node.unanswered query

partial def follow (watch : Watch) : IO Unit := do
  IO.println (← watch.look.run answer)
  IO.sleep (UInt32.ofNat (min watch.interval 4294967295))
  follow watch

def usage : List String :=
  "Usage: tft-bridge [-v|--verbose] <COMMAND>" ::
    subcommands.map fun (name, usage) =>
      "  " ++ String.intercalate " " (name :: usage.positionals.map fun p => "<" ++ p.1 ++ ">")

def refuse (r : Refusal) : IO Unit := do
  match r with
  | .help => usage.forM (IO.println ·)
  | .version => IO.println "tft-bridge 0.1.0"
  | _ => usage.forM (IO.eprintln ·)

def report (failure : Failure) : IO Unit :=
  IO.eprintln ("Error: " ++ String.intercalate ": " failure.causes)

def perform (command : Command) : IO UInt32 := do
  let result ← (run command (← readVariables)).run.run answer
  match result with
  | .ok none => pure ()
  | .ok (some watch) => follow watch
  | .error failure => report failure
  return UInt32.ofNat (exitCode result)

end TokenBridge.Command

def main (args : List String) : IO UInt32 := do
  match TokenBridge.Command.read args with
  | .ok invocation => TokenBridge.Command.perform invocation.command
  | .error refusal => do
    TokenBridge.Command.refuse refusal
    return UInt32.ofNat refusal.exitCode
