import TokenBridge.Http
import TokenBridge.Stellar.Destination

namespace TokenBridge.Stellar

structure Horizon where
  url : Url
  deriving DecidableEq, Repr

namespace Horizon

def read (s : String) : Except NetworkError Horizon :=
  match Url.read s with
  | .ok url => .ok ⟨url⟩
  | .error e => .error (.lookup ("invalid Horizon URL: " ++ e.message))

def accountUrl (h : Horizon) (id : String) : Except NetworkError Url :=
  match h.url.extended? ["accounts".toList, id.toList] with
  | some url => .ok url
  | none => .error (.lookup "Horizon URL cannot be a base")

def judge (id : String) : Http.Answer → Lookup
  | .error fault => .error (.lookup fault.message)
  | .ok response =>
    if response.status = 404 then .error (.accountMissing id)
    else if !Http.isSuccess response.status then
      .error (.lookup ("Horizon returned " ++ Http.statusText response.status))
    else
      match Account.read response.body.toList with
      | some account => .ok account
      | none => .error (.lookup ("invalid account response: " ++ Http.Fault.undecodable.message))

def account {m : Type → Type} [Monad m] (fetch : Url → m Http.Answer) (h : Horizon) (id : String) :
    m Lookup :=
  match h.accountUrl id with
  | .error e => pure (.error e)
  | .ok url => do return judge id (← fetch url)

end Horizon
end TokenBridge.Stellar
