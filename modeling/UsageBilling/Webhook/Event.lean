import UsageBilling.Json.Record
/-!
Events that the billing provider sends: their record, the subscription they name, and what is to be
done about each type.
-/
namespace UsageBilling.Webhook

structure Event where
  id : String := ""
  type : String := ""
  created : Option Int := none
  object : Json := .null
  deriving DecidableEq, Inhabited

inductive Interest where
  /-- The subscription it names is fetched and copied. -/
  | sync
  /-- It is noted. -/
  | log
  | ignore
  deriving DecidableEq, Repr

def syncTypes : List String :=
  ["customer.subscription.created", "customer.subscription.updated",
   "customer.subscription.deleted", "invoice.payment_succeeded", "invoice.payment_failed"]

def logTypes : List String :=
  ["customer.subscription.trial_will_end", "invoice.finalized", "customer.updated",
   "payment_method.attached", "payment_method.detached"]

def Interest.ofType (type : String) : Interest :=
  if syncTypes.contains type then sync else if logTypes.contains type then log else ignore

namespace Event

open Json

def dataReader : Reader Json :=
  Reader.record [.required "object" Reader.value fun value _ => value] .null

def fields : List (RecordField Event) := [
  .required "id" Reader.string fun value event => { event with id := value },
  .required "type" Reader.string fun value event => { event with type := value },
  .defaultedOptional "created" Reader.signed64 fun value event => { event with created := value },
  .required "data" dataReader fun value event => { event with object := value }]

def reader : Reader Event := Reader.record fields {}

def isAboutSubscription (event : Event) : Bool :=
  "customer.subscription.".toList.isPrefixOf event.type.toList

/-- The subscription that the event names: its object where that is a subscription, and else the
one in the field `subscription`. An empty id names none. -/
def subscriptionId? (event : Event) : Option String :=
  let field := if event.isAboutSubscription then "id" else "subscription"
  ((event.object.field? field).bind Json.text?).filter (· ≠ "")

end Event

end UsageBilling.Webhook
