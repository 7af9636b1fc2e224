import UsageBilling.Fault
import UsageBilling.Signature
import UsageBilling.Webhook.Event
/-!
Acceptance of a webhook: the body must not be empty, its signature must hold unless no secret is
set, and it must be an event. The first of these that fails decides the error.
-/
namespace UsageBilling.Webhook

structure Settings where
  secret : String := ""
  toleranceSecs : Int := 300
  deriving DecidableEq, Repr, Inhabited

inductive Error where
  | missingSignature
  | signature (refusal : Signature.Refusal)
  | emptyBody
  | invalidPayload (detail : String)
  | handling (eventId eventType : String) (fault : Fault)
  deriving DecidableEq, Repr

namespace Error

def message : Error → String
  | missingSignature => "missing signature header"
  | signature refusal => refusal.message
  | emptyBody => "empty request body"
  | invalidPayload detail => "invalid event payload: " ++ detail
  | handling eventId eventType fault =>
    "failed to handle " ++ eventType ++ " event " ++ eventId ++ ": " ++ fault.message

/-- A signature that could be read but does not hold is unauthorized. -/
def toFault : Error → Fault
  | handling _ _ fault => fault
  | signature refusal =>
    if refusal.isMalformed then .badRequest ⟨refusal.message, []⟩
    else .unauthorized ⟨refusal.message, []⟩
  | error => .badRequest ⟨error.message, []⟩

end Error

namespace Settings

def verifies (settings : Settings) : Bool := settings.secret ≠ ""

def verify (settings : Settings) (signature : Option String) (body : List UInt8) (now : Instant) :
    Except Error Unit :=
  if settings.verifies then
    match signature.filter fun header => !Text.isBlankText header with
    | none => .error .missingSignature
    | some header =>
      match Signature.verify settings.secret header body now.seconds settings.toleranceSecs with
      | .ok _ => .ok ()
      | .error refusal => .error (.signature refusal)
  else .ok ()

end Settings

def parseEvent (body : List UInt8) : Except Error Event :=
  if body.isEmpty then .error .emptyBody
  else match Event.reader.run body with
    | .ok event => .ok event
    | .error .malformed => .error (.invalidPayload "not a JSON text")
    | .error .mismatched => .error (.invalidPayload "not an event")

def accept (settings : Settings) (signature : Option String) (body : List UInt8) (now : Instant) :
    Except Error Event :=
  if body.isEmpty then .error .emptyBody
  else match settings.verify signature body now with
    | .error error => .error error
    | .ok () => parseEvent body

end UsageBilling.Webhook
