import UsageBilling.Program
import UsageBilling.Text.Blank
/-!
What can be done with a tenant's subscription. Each operation first reads the row, then asks the
billing provider, and last writes what the provider answered; nothing is written before the provider
has agreed. A tenant without a row gets one on the free plan.
-/
namespace UsageBilling

namespace Snapshot

/-- What the provider tells about a subscription, under the plan and price that it stands for. -/
def ofRemote (remote : Provider.RemoteSubscription) (plan : Option (Plan × String)) : Snapshot where
  providerId := remote.id
  priceId := plan.map Prod.snd
  plan := plan.map Prod.fst
  status := remote.status
  periodStart := remote.periodStart.bind Instant.ofUnix?
  periodEnd := remote.periodEnd.bind Instant.ofUnix?
  trialStart := remote.trialStart.bind Instant.ofUnix?
  trialEnd := remote.trialEnd.bind Instant.ofUnix?
  cancelAt := remote.cancelAt.bind Instant.ofUnix?
  canceledAt := remote.canceledAt.bind Instant.ofUnix?
  cancelAtPeriodEnd := remote.cancelAtPeriodEnd
  paymentMethodId := remote.paymentMethod

end Snapshot

namespace Catalog

def pricedPlan (catalog : Catalog) (name : String) : Except Fault (PlanTerms × String) :=
  match catalog.lookup? name with
  | none => .error (.badRequest ⟨"Unknown plan: " ++ name, []⟩)
  | some terms =>
    match terms.priceId with
    | none =>
      .error (.badRequest
        ⟨"Plan " ++ name ++ " cannot be subscribed to through the provider", []⟩)
    | some priceId => .ok (terms, priceId)

/-- The plan of a subscription at the provider, if its price is one of ours. -/
def planOf (catalog : Catalog) (remote : Provider.RemoteSubscription) : Option (Plan × String) := do
  let priceId ← remote.primaryPriceId?
  let plan ← catalog.planForPrice? priceId
  some (plan, priceId)

end Catalog

namespace Lifecycle

def ask (call : Provider.Call) : Attempt call.Answer := do
  match ← perform (.ask call) with
  | .ok answer => return answer
  | .error error =>
    perform (.count (.errors "provider" call.name))
    throw error.toFault

def countOperation (operation : Operation) : Attempt Unit := perform (.count (.operations operation))

def get (tenant : Uuid) : Attempt Subscription := do
  match ← orFail (perform (.findByTenant tenant)) with
  | some row => return row
  | none =>
    let now ← perform .now
    let id ← perform .newId
    let row ← orFail (perform (.insertIfAbsent (.freeTier id tenant now)))
    countOperation .createFreeTier
    return row

def missingCustomer : Fault := .conflict ⟨"Tenant has no billing provider customer", []⟩

def missingSubscription : Fault := .conflict ⟨"Tenant has no provider subscription", []⟩

def require {α : Type} (value : Option α) (fault : Fault) : Attempt α :=
  match value with
  | some present => return present
  | none => throw fault

/-- Makes the tenant a customer of the provider. A tenant that is one already stays as it is. -/
def createCustomer (tenant : Uuid) (email name : String) : Attempt Subscription := do
  let row ← get tenant
  if row.customerId.isSome then return row
  let customer ← ask (.createCustomer ⟨tenant, email, name⟩)
  let linked ← orFail (perform (.setProviderCustomer tenant customer.id))
  countOperation .createCustomer
  return linked

def planMetadata (tenant : Uuid) (plan : Plan) : List (String × String) :=
  [("tenant_id", tenant.text), ("plan", plan.name)]

/-- Puts the tenant on a paid plan. A payment method that the provider does not confirm is kept. -/
def subscribe (catalog : Catalog) (tenant : Uuid) (planName : String)
    (paymentMethod : Option String) : Attempt Subscription := do
  let row ← get tenant
  let customerId ← require row.customerId missingCustomer
  let (terms, priceId) ← catalog.pricedPlan planName
  let remote ← ask (.createSubscription {
    customerId
    priceId
    trialDays := terms.trialDays
    paymentMethod
    metadata := planMetadata tenant terms.plan })
  let snapshot := Snapshot.ofRemote remote (some (terms.plan, priceId))
  let snapshot := { snapshot with
    paymentMethodId := snapshot.paymentMethodId.or paymentMethod }
  let subscribed ← orFail (perform (.applySnapshot tenant snapshot))
  countOperation .subscribe
  return subscribed

/-- Ends the subscription, at once or with its period. A row that the provider does not know is only
marked. -/
def cancel (catalog : Catalog) (tenant : Uuid) (immediate : Bool) : Attempt Subscription := do
  let row ← get tenant
  match row.providerId with
  | none =>
    let canceled ← orFail (perform (.markCanceled tenant))
    countOperation .cancelLocal
    return canceled
  | some providerId =>
    let remote ← ask (.cancelSubscription providerId (!immediate))
    let snapshot := Snapshot.ofRemote remote (catalog.planOf remote)
    let canceled ← orFail (perform (.applySnapshot tenant snapshot))
    countOperation (if immediate then .cancelImmediate else .cancelAtPeriodEnd)
    return canceled

def portalUrl (tenant : Uuid) (returnUrl : String) : Attempt String := do
  let row ← get tenant
  let customerId ← require row.customerId missingCustomer
  let session ← ask (.createPortalSession customerId returnUrl)
  return session.url

def changePlan (catalog : Catalog) (tenant : Uuid) (planName : String) : Attempt Subscription := do
  let row ← get tenant
  let providerId ← require row.providerId missingSubscription
  let (terms, priceId) ← catalog.pricedPlan planName
  let current ← ask (.getSubscription providerId)
  let item ← require current.items.head?
    (.badGateway ("Provider subscription " ++ providerId ++ " has no items"))
  let remote ← ask (.updateSubscription providerId {
    itemPrice := some ⟨item.id, priceId⟩
    prorationBehavior := some "create_prorations"
    metadata := [("plan", terms.plan.name)] })
  let snapshot := Snapshot.ofRemote remote (some (terms.plan, priceId))
  let changed ← orFail (perform (.applySnapshot tenant snapshot))
  countOperation .changePlan
  return changed

/-- An address where a paid plan can be bought. A blank email counts as none. -/
def checkoutUrl (catalog : Catalog) (tenant : Uuid) (planName : String) (email : Option String)
    (successUrl cancelUrl : String) : Attempt String := do
  let (terms, priceId) ← catalog.pricedPlan planName
  let row ← get tenant
  let session ← ask (.createCheckoutSession {
    priceId
    successUrl
    cancelUrl
    customerId := row.customerId
    customerEmail := email.filter fun text => !Text.isBlankText text
    metadata := planMetadata tenant terms.plan })
  countOperation .checkout
  return session.url

def upcomingInvoice (tenant : Uuid) : Attempt Provider.Invoice := do
  let row ← get tenant
  let customerId ← require row.customerId missingCustomer
  ask (.upcomingInvoice customerId)

def mostInvoices : Nat := 100

/-- Past invoices; a tenant that is no customer has none. -/
def listInvoices (tenant : Uuid) (limit : Nat) : Attempt (List Provider.Invoice) := do
  let row ← get tenant
  match row.customerId with
  | none => return []
  | some customerId => ask (.listInvoices customerId (max 1 (min limit mostInvoices)))

/-- Whether `usage` reaches the limit of the tenant's plan, and that limit. Names that are no metric
have no limit. -/
def checkUsageLimit (catalog : Catalog) (tenant : Uuid) (metricName : String) (usage : Int) :
    Attempt (Bool × Int) := do
  match Metric.ofName? metricName with
  | none => return (false, unlimited)
  | some metric =>
    let row ← get tenant
    let limit := (row.terms catalog).limits.get metric
    return (limit ≠ unlimited && limit ≤ usage, limit)

def hasFeature (catalog : Catalog) (tenant : Uuid) (feature : String) : Attempt Bool := do
  let row ← get tenant
  return (row.terms catalog).hasFeature feature

def sync (catalog : Catalog) (providerId : String) : Attempt SyncOutcome := do
  let remote ← ask (.getSubscription providerId)
  let snapshot := Snapshot.ofRemote remote (catalog.planOf remote)
  let outcome ← orFail (perform (.syncSnapshot snapshot))
  countOperation (.sync outcome)
  return outcome

end Lifecycle

end UsageBilling
