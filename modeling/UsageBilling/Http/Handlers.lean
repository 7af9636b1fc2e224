import UsageBilling.Documents
import UsageBilling.Http.Extract
import UsageBilling.Http.Route
import UsageBilling.Webhook.Dispatch
/-!
What each resource does. Path and method decide first, then the parts of the path are read, then the
query or the body, and only then anything is done.
-/
namespace UsageBilling.Http

/-- What the answers depend on besides the state of the service. -/
structure Site where
  catalog : Catalog := ⟨{}⟩
  webhook : Webhook.Settings := {}
  deriving DecidableEq, Repr, Inhabited

def serviceName : String := "metering-service"

def serviceVersion : String := "0.1.0"

def answering {α : Type} (attempt : Attempt α) (write : α → Answer) : Program Answer := do
  match ← attempt.outcome with
  | .ok result => return write result
  | .error fault => return .ofFault fault

def withRead {α : Type} (read : Except Rejection α) (next : α → Program Answer) : Program Answer :=
  match read with
  | .ok value => next value
  | .error rejection => return rejection.toAnswer

def health : Program Answer := do
  match ← perform .healthCheck with
  | .ok () =>
    return .json 200 (.obj [("status", .str "ok"), ("service", .str serviceName),
      ("version", .str serviceVersion)])
  | .error fault =>
    return .json 503 (.obj [("status", .str "unhealthy"), ("service", .str serviceName),
      ("error", .str fault.message)])

/-- Ready means open and with a store that works. -/
def ready : Program Answer := do
  if ← perform .isClosed then return { status := 503 }
  match ← perform .healthCheck with
  | .ok () => return { status := 200 }
  | .error _ => return { status := 503 }

def metrics : Program Answer := do
  let counters ← perform .counters
  return { status := 200, content := .text counters.text }

/-- The signature that comes with an event. A header `Signature` goes before `Stripe-Signature`. -/
def signatureOf (request : Request) : Option String :=
  ((request.header? "signature").or (request.header? "stripe-signature")).filter isVisibleText

/-- Takes an event in. One that is accepted is acknowledged whatever becomes of it. -/
def receiveEvent (site : Site) (request : Request) (body : List UInt8) : Attempt Json := do
  let now ← perform .now
  match Webhook.accept site.webhook (signatureOf request) body now with
  | .error error =>
    perform (.count (.webhookEvents "unknown" "rejected"))
    throw error.toFault
  | .ok event =>
    match ← (Webhook.dispatch site.catalog event).run with
    | .ok outcome => perform (.count (.webhookEvents event.type outcome.label))
    | .error _ => perform (.count (.webhookEvents event.type "failed"))
    return .obj [("received", .bool true)]

open Json (RecordField Reader)

structure UsageBody where
  metric : String := ""
  quantity : Nat := 1

def UsageBody.reader : Reader UsageBody := Reader.record [
  .required "metric" Reader.string fun value body => { body with metric := value },
  .defaulted "quantity" (Reader.unsigned Text.greatestUnsigned64)
    fun value body => { body with quantity := value }] {}

def trackUsage (tenant : Uuid) (body : UsageBody) : Attempt Json := do
  match Metric.ofName? body.metric with
  | none => throw (.badRequest ⟨"Unknown usage metric: " ++ body.metric, []⟩)
  | some metric =>
    match ← perform (.track ⟨tenant, metric⟩ body.quantity) with
    | .error error => throw error.toFault
    | .ok () =>
      let pending ← perform (.pending ⟨tenant, metric⟩)
      return .obj [("tenant_id", Json.ofUuid tenant), ("metric", .str metric.name),
        ("quantity", .int body.quantity), ("pending", .int pending)]

structure UsageOverview where
  tenant : Uuid
  usage : UsageTotals
  limits : List LimitCheck
  deriving DecidableEq, Repr

def UsageOverview.toJson (overview : UsageOverview) : Json :=
  .obj [
    ("tenant_id", Json.ofUuid overview.tenant),
    ("period", Json.ofPeriod overview.usage.period),
    ("usage", overview.usage.toJson),
    ("limits", .arr (overview.limits.map LimitCheck.toJson))]

def usageOverview (site : Site) (tenant : Uuid) : Attempt UsageOverview := do
  let usage ← UsageTotals.current tenant
  let limits ← LimitCheck.checkAll site.catalog tenant
  return ⟨tenant, usage, limits⟩

structure CustomerBody where
  email : String := ""
  name : String := ""

def CustomerBody.reader : Reader CustomerBody := Reader.record [
  .required "email" Reader.string fun value body => { body with email := value },
  .required "name" Reader.string fun value body => { body with name := value }] {}

def createCustomer (tenant : Uuid) (body : CustomerBody) : Attempt Subscription := do
  if Text.isBlankText body.email then throw (.badRequest ⟨"email is required", []⟩)
  Lifecycle.createCustomer tenant body.email body.name

structure SubscribeBody where
  plan : String := ""
  paymentMethod : Option String := none

def SubscribeBody.reader : Reader SubscribeBody := Reader.record [
  .required "plan" Reader.string fun value body => { body with plan := value },
  .optional "payment_method_id" Reader.string fun value body => { body with paymentMethod := value }] {}

def cancelReader : Reader Bool :=
  Reader.record [.defaulted "immediate" Reader.boolean fun value _ => value] false

def textReader (name : String) : Reader String :=
  Reader.record [.required name Reader.string fun value _ => value] ""

structure CheckoutBody where
  plan : String := ""
  successUrl : String := ""
  cancelUrl : String := ""
  email : Option String := none

def CheckoutBody.reader : Reader CheckoutBody := Reader.record [
  .required "plan" Reader.string fun value body => { body with plan := value },
  .required "success_url" Reader.string fun value body => { body with successUrl := value },
  .required "cancel_url" Reader.string fun value body => { body with cancelUrl := value },
  .optional "email" Reader.string fun value body => { body with email := value }] {}

def checkout (site : Site) (tenant : Uuid) (body : CheckoutBody) : Attempt String := do
  if Text.isBlankText body.successUrl || Text.isBlankText body.cancelUrl then
    throw (.badRequest ⟨"success_url and cancel_url are required", []⟩)
  Lifecycle.checkoutUrl site.catalog tenant body.plan body.email body.successUrl body.cancelUrl

def usualInvoices : Nat := 10

def urlAnswer (url : String) : Answer := .json 200 (.obj [("url", .str url)])

/-- What is done for a tenant; `posted` tells whether the request was a post. -/
def ofTenant (site : Site) (tenant : Uuid) (posted : Bool) (request : Request) :
    TenantResource → Program Answer
  | .usage =>
    if posted then
      withRead (readJson request UsageBody.reader) fun body =>
        answering (trackUsage tenant body) (.json 202)
    else answering (usageOverview site tenant) fun overview => .json 200 overview.toJson
  | .limit metric =>
    match decodePart? metric with
    | some name => answering (LimitCheck.check site.catalog tenant name) fun check => .json 200 check.toJson
    | none => return Rejection.badPath.toAnswer
  | .subscription =>
    if posted then
      withRead (readJson request SubscribeBody.reader) fun body =>
        answering (Lifecycle.subscribe site.catalog tenant body.plan body.paymentMethod) (rowAnswer 200)
    else answering (Lifecycle.get tenant) (rowAnswer 200)
  | .cancellation =>
    let immediate := match readJson request cancelReader with
      | .ok immediate => immediate
      | .error _ => false
    answering (Lifecycle.cancel site.catalog tenant immediate) (rowAnswer 200)
  | .plan =>
    withRead (readJson request (textReader "plan")) fun plan =>
      answering (Lifecycle.changePlan site.catalog tenant plan) (rowAnswer 200)
  | .customer =>
    withRead (readJson request CustomerBody.reader) fun body =>
      answering (createCustomer tenant body) (rowAnswer 201)
  | .portal =>
    withRead (readJson request (textReader "return_url")) fun returnUrl =>
      answering (Lifecycle.portalUrl tenant returnUrl) urlAnswer
  | .checkout =>
    withRead (readJson request CheckoutBody.reader) fun body =>
      answering (checkout site tenant body) urlAnswer
  | .invoices =>
    withRead (readNumber request "limit" usualInvoices) fun limit =>
      answering (Lifecycle.listInvoices tenant limit) fun invoices =>
        .json 200 (.obj [("tenant_id", Json.ofUuid tenant),
          ("invoices", .arr (invoices.map Provider.Invoice.toJson))])
  | .upcomingInvoice =>
    answering (Lifecycle.upcomingInvoice tenant) fun invoice => .json 200 invoice.toJson
where
  rowAnswer (status : Nat) (row : Subscription) : Answer := .json status (row.overview site.catalog)

def serve (site : Site) (request : Request) (posted : Bool) : Resource → Program Answer
  | .health => health
  | .ready => ready
  | .metrics => metrics
  | .webhook =>
    withRead (readBody request) fun body => answering (receiveEvent site request body) (.json 200)
  | .ofTenant part resource =>
    match (decodePart? part).bind Uuid.parse? with
    | some tenant => ofTenant site tenant posted request resource
    | none => return Rejection.badPath.toAnswer

def answer (site : Site) (request : Request) : Program Answer :=
  match Resource.ofPath? request.path with
  | none => return { status := 404 }
  | some resource =>
    if resource.methods.contains request.method then
      serve site request (request.method = "POST") resource
    else return { status := 405, allow := resource.methods }

def requestIdHeader : String := "x-request-id"

def givenId? (request : Request) : Option String :=
  (request.header? requestIdHeader).filter fun id => id ≠ "" && isVisibleText id

def requestId (request : Request) : Program String :=
  match givenId? request with
  | some id => return id
  | none => return (← perform .newId).text

def respond (site : Site) (request : Request) : Program Response := do
  let requestId ← requestId request
  let answer ← answer site request
  return {
    status := answer.status
    contentType := answer.content.type?
    body := if request.method = "HEAD" then .empty else answer.content
    allow := answer.allow
    requestId }

end UsageBilling.Http
