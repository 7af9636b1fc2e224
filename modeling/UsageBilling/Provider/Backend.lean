import UsageBilling.Json.Printer
import UsageBilling.Provider.Client
/-!
Where the answers of the billing provider come from: prepared ones in a fixed order, or a client and
a network.
-/
namespace UsageBilling.Provider

/-- A prepared answer, which is read as what the call asks for. -/
inductive Prepared where
  | record (value : Json)
  | failure (error : Error)
  deriving DecidableEq

def Prepared.interpret (call : Call) : Prepared → Except Error call.Answer
  | record value =>
    match call.reader.run value.render with
    | .ok answer => .ok answer
    | .error _ => .error (.unreadable "bad script")
  | failure error => .error error

inductive Backend where
  | prepared (answers : List Prepared)
  | remote (settings : ClientSettings) (network : Network)
  deriving DecidableEq

namespace Backend

def transportFailure : Error := .transport "request failed"

/-- The answer to a call, the status under which a request is counted if one was tried, and what
answers the next call. -/
def answer (backend : Backend) (call : Call) :
    Except Error call.Answer × Option String × Backend :=
  match backend with
  | prepared [] => (.error (.transport "unscripted"), none, prepared [])
  | prepared (first :: rest) => (first.interpret call, none, prepared rest)
  | remote settings network =>
    if settings.isConfigured then
      match settings.request? call with
      | none => (.error transportFailure, some "transport_error", backend)
      | some _ =>
        match network.exchange with
        | (none, network) =>
          (.error transportFailure, some "transport_error", remote settings network)
        | (some reply, network) =>
          (reply.interpret call, some (toString reply.status), remote settings network)
    else (.error .notConfigured, none, backend)

end Backend

end UsageBilling.Provider
