import UsageBilling.Provider.Call
import UsageBilling.Text.Form
import UsageBilling.Url
/-!
The billing provider over HTTP. A call becomes one request: its arguments go into the path, a form
or the query. A reply with a status from 200 to 299 is read as the answer of the call, and any other
as an error of the provider.
-/
namespace UsageBilling.Provider

inductive Verb where
  | get
  | post
  | delete
  deriving DecidableEq, Repr

inductive Arguments where
  | none
  | form (pairs : List (String × String))
  | query (pairs : List (String × String))
  deriving DecidableEq, Repr

/-- What a call asks for, below the address of the provider. -/
structure Outline where
  verb : Verb
  path : String
  arguments : Arguments
  idempotencyKey : Option String := none
  deriving DecidableEq, Repr

def metadataPairs (metadata : List (String × String)) : List (String × String) :=
  metadata.map fun (key, value) => ("metadata[" ++ key ++ "]", value)

def optionalPair (name : String) (value : Option String) : List (String × String) :=
  value.toList.map fun text => (name, text)

def customerPath (id : String) : String := "/v1/customers/" ++ id

def subscriptionPath (id : String) : String := "/v1/subscriptions/" ++ id

def usagePath (itemId : String) : String :=
  "/v1/subscription_items/" ++ itemId ++ "/usage_records"

def NewSubscription.pairs (request : NewSubscription) : List (String × String) :=
  [("customer", request.customerId), ("items[0][price]", request.priceId)] ++
    (if request.trialDays = 0 then [] else [("trial_period_days", toString request.trialDays)]) ++
    optionalPair "default_payment_method" request.paymentMethod ++ metadataPairs request.metadata

def SubscriptionUpdate.pairs (update : SubscriptionUpdate) : List (String × String) :=
  (match update.itemPrice with
    | some change => [("items[0][id]", change.itemId), ("items[0][price]", change.priceId)]
    | none => []) ++
    optionalPair "proration_behavior" update.prorationBehavior ++
    optionalPair "cancel_at_period_end"
      (update.cancelAtPeriodEnd.map fun flag => if flag then "true" else "false") ++
    optionalPair "default_payment_method" update.paymentMethod ++ metadataPairs update.metadata

/-- A customer that the provider knows is named by id, any other one by email. -/
def NewCheckout.pairs (request : NewCheckout) : List (String × String) :=
  [("mode", "subscription"), ("success_url", request.successUrl),
    ("cancel_url", request.cancelUrl), ("line_items[0][price]", request.priceId),
    ("line_items[0][quantity]", "1")] ++
    (match request.customerId with
      | some id => [("customer", id)]
      | none => optionalPair "customer_email" request.customerEmail) ++
    metadataPairs request.metadata

def Call.outline : Call → Outline
  | .createCustomer request => {
      verb := .post
      path := "/v1/customers"
      arguments := .form [("email", request.email), ("name", request.name),
        ("metadata[tenant_id]", request.tenant.text)] }
  | .getCustomer id => { verb := .get, path := customerPath id, arguments := .none }
  | .createSubscription request =>
    { verb := .post, path := "/v1/subscriptions", arguments := .form request.pairs }
  | .getSubscription id => { verb := .get, path := subscriptionPath id, arguments := .none }
  | .updateSubscription id update =>
    { verb := .post, path := subscriptionPath id, arguments := .form update.pairs }
  | .cancelSubscription id true => {
      verb := .post
      path := subscriptionPath id
      arguments := .form [("cancel_at_period_end", "true")] }
  | .cancelSubscription id false =>
    { verb := .delete, path := subscriptionPath id, arguments := .none }
  | .createUsageRecord report => {
      verb := .post
      path := usagePath report.itemId
      arguments := .form [("quantity", toString report.quantity),
        ("timestamp", toString report.timestamp), ("action", report.action.name)]
      idempotencyKey := report.idempotencyKey }
  | .createPortalSession customerId returnUrl => {
      verb := .post
      path := "/v1/billing_portal/sessions"
      arguments := .form [("customer", customerId), ("return_url", returnUrl)] }
  | .createCheckoutSession request =>
    { verb := .post, path := "/v1/checkout/sessions", arguments := .form request.pairs }
  | .upcomingInvoice customerId => {
      verb := .get
      path := "/v1/invoices/upcoming"
      arguments := .query [("customer", customerId)] }
  | .listInvoices customerId limit => {
      verb := .get
      path := "/v1/invoices"
      arguments := .query [("customer", customerId), ("limit", toString limit)] }

structure ClientSettings where
  baseUrl : String := "https://api.stripe.com"
  /-- The user name of every request. Without one no request is sent. -/
  secretKey : String := ""
  timeoutSecs : Nat := 30
  deriving DecidableEq, Repr, Inhabited

namespace ClientSettings

def isConfigured (settings : ClientSettings) : Bool := settings.secretKey ≠ ""

def root (settings : ClientSettings) : String :=
  String.ofList (settings.baseUrl.toList.reverse.dropWhile (· = '/')).reverse

end ClientSettings

def interfaceVersion : String := "2023-10-16"

structure Request where
  verb : Verb
  url : Url
  user : String
  version : String
  idempotencyKey : Option String
  body : List Char
  deriving DecidableEq, Repr

def isHeaderText (text : String) : Bool :=
  text.toList.all fun c => c == '\t' || (0x20 ≤ c.toNat && c.toNat ≠ 0x7f)

def withQuery (url : Url) (pairs : List (String × String)) : Url :=
  let added := String.ofList (Text.Form.encode pairs)
  { url with
    query := match url.query.filter (· ≠ "") with
      | some query => some (query ++ "&" ++ added)
      | none => some added }

def ClientSettings.request? (settings : ClientSettings) (call : Call) : Option Request := do
  let outline := call.outline
  let url ← Url.parse? (settings.root ++ outline.path)
  if !(outline.idempotencyKey.all isHeaderText) then none
  let request : Request := {
    verb := outline.verb
    url
    user := settings.secretKey
    version := interfaceVersion
    idempotencyKey := outline.idempotencyKey
    body := [] }
  match outline.arguments with
  | .none => some request
  | .form pairs => some { request with body := Text.Form.encode pairs }
  | .query pairs => some { request with url := withQuery url pairs }

structure Reply where
  status : Nat
  body : List UInt8
  deriving DecidableEq, Repr

structure Refusal where
  kind : Option String := none
  detail : Option String := none
  deriving DecidableEq, Repr, Inhabited

open Json in
def Refusal.reader : Reader Refusal :=
  Reader.record [.required "error" (Reader.record [
    .optional "type" Reader.string fun value refusal => { refusal with kind := value },
    .optional "message" Reader.string fun value refusal => { refusal with detail := value }]
    ({} : Refusal)) fun value _ => value] {}

/-- A refusal that cannot be read is told by its body. -/
def Reply.toError (reply : Reply) : Error :=
  let body := (Text.ofBytes? reply.body).getD ""
  match Refusal.reader.run reply.body with
  | .ok refusal => .refused reply.status (refusal.detail.getD body) refusal.kind
  | .error _ => .refused reply.status body none

def Reply.interpret (reply : Reply) (call : Call) : Except Error call.Answer :=
  if 200 ≤ reply.status ∧ reply.status < 300 then
    match call.bodyReader.run reply.body with
    | .ok answer => .ok answer
    | .error .malformed => .error (.unreadable "not a JSON text")
    | .error .mismatched => .error (.unreadable "not the record that was asked for")
  else .error reply.toError

inductive Network where
  | unreachable
  /-- The provider gives these replies, one after the other. -/
  | replying (replies : List Reply)
  deriving DecidableEq, Repr

def Network.exchange : Network → Option Reply × Network
  | unreachable => (none, unreachable)
  | replying [] => (none, replying [])
  | replying (reply :: replies) => (some reply, replying replies)

end UsageBilling.Provider
