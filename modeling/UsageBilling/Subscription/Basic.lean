import UsageBilling.Json.Basic
import UsageBilling.Period
import UsageBilling.Plan
/-!
Subscriptions: one row per tenant. Plan and status are kept as text, so that values of the billing
provider that are not known here survive.
-/
namespace UsageBilling

inductive Status where
  | active
  | trialing
  | pastDue
  | canceled
  | incomplete
  | incompleteExpired
  | unpaid
  | paused
  deriving DecidableEq, Repr

namespace Status

def all : List Status :=
  [active, trialing, pastDue, canceled, incomplete, incompleteExpired, unpaid, paused]

def name : Status → String
  | active => "active"
  | trialing => "trialing"
  | pastDue => "past_due"
  | canceled => "canceled"
  | incomplete => "incomplete"
  | incompleteExpired => "incomplete_expired"
  | unpaid => "unpaid"
  | paused => "paused"

def ofName? (name : String) : Option Status := all.find? fun status => status.name == name

def isActive (status : Status) : Bool := status = active || status = trialing

end Status

structure Subscription where
  id : Uuid
  tenant : Uuid
  customerId : Option String
  providerId : Option String
  priceId : Option String
  plan : String
  status : String
  billingAnchor : Option Instant
  periodStart : Option Instant
  periodEnd : Option Instant
  trialStart : Option Instant
  trialEnd : Option Instant
  cancelAt : Option Instant
  canceledAt : Option Instant
  cancelAtPeriodEnd : Bool
  paymentMethodId : Option String
  metadata : Option Json
  createdAt : Instant
  updatedAt : Instant
  deriving DecidableEq, Inhabited

namespace Subscription

/-- The row of a tenant on the free plan, with a period of one month from `now`. -/
def freeTier (id tenant : Uuid) (now : Instant) : Subscription where
  id
  tenant
  customerId := none
  providerId := none
  priceId := none
  plan := Plan.free.name
  status := Status.active.name
  billingAnchor := some now
  periodStart := some now
  periodEnd := now.addMonth?
  trialStart := none
  trialEnd := none
  cancelAt := none
  canceledAt := none
  cancelAtPeriodEnd := false
  paymentMethodId := none
  metadata := none
  createdAt := now
  updatedAt := now

def knownStatus (row : Subscription) : Option Status := Status.ofName? row.status

def isActive (row : Subscription) : Bool := row.knownStatus.any Status.isActive

def isTrial (row : Subscription) : Bool := row.knownStatus = some .trialing

def terms (row : Subscription) (catalog : Catalog) : PlanTerms := catalog.resolve row.plan

/-- The row's own period, if both ends are known and the start comes first. -/
def currentPeriod (row : Subscription) : Option Period :=
  match row.periodStart, row.periodEnd with
  | some start, some finish => if start < finish then some ⟨start, finish⟩ else none
  | _, _ => none

end Subscription

namespace Period

def ofSubscription (row : Option Subscription) (moment : Instant) : Period :=
  resolve (row.bind Subscription.currentPeriod) moment

end Period

end UsageBilling
