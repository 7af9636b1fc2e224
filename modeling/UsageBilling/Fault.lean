import UsageBilling.Json.Basic
/-!
Faults of an operation, and how they are answered over HTTP.
-/
namespace UsageBilling

/-- Why something failed: a first cause, and what was being done, the innermost first. -/
structure Cause where
  root : String
  contexts : List String := []
  deriving DecidableEq, Repr, Inhabited

namespace Cause

def text (cause : Cause) : String := cause.contexts.getLast?.getD cause.root

def chain (cause : Cause) : String := ": ".intercalate (cause.root :: cause.contexts).reverse

end Cause

inductive Fault where
  | badRequest (cause : Cause)
  | notFound (cause : Cause)
  | unauthorized (cause : Cause)
  | conflict (cause : Cause)
  | internal (cause : Cause)
  | badGateway (detail : String)
  | unavailable
  | database (cause : Cause)
  | configuration (cause : Cause)
  deriving DecidableEq, Repr, Inhabited

namespace Fault

def message : Fault → String
  | badRequest cause => "Bad request: " ++ cause.text
  | notFound cause => "Not found: " ++ cause.text
  | unauthorized cause => "Unauthorized: " ++ cause.text
  | conflict cause => "Conflict: " ++ cause.text
  | internal cause => "Internal server error: " ++ cause.text
  | badGateway detail => "Bad Gateway: " ++ detail
  | unavailable => "Service Unavailable"
  | database cause => "Database error: " ++ cause.text
  | configuration cause => "Configuration error: " ++ cause.text

def status : Fault → Nat
  | badRequest _ => 400
  | notFound _ => 404
  | unauthorized _ => 401
  | conflict _ => 409
  | internal _ => 500
  | badGateway _ => 502
  | unavailable => 503
  | database _ => 500
  | configuration _ => 500

/-- The body of the HTTP answer. Faults of the caller are told in full; of the others only the kind
is told in `error`, and their cause in `details`. -/
def body : Fault → Json
  | badRequest cause | notFound cause | unauthorized cause | conflict cause =>
    .obj [("error", .str cause.text)]
  | internal cause => .obj [("error", .str "Internal server error"), ("details", .str cause.chain)]
  | badGateway detail => .obj [("error", .str ("Bad Gateway: " ++ detail))]
  | unavailable => .obj [("error", .str "Service unavailable")]
  | database cause => .obj [("error", .str "Database error"), ("details", .str cause.text)]
  | configuration cause => .obj [("error", .str "Configuration error"), ("details", .str cause.text)]

end Fault

end UsageBilling
