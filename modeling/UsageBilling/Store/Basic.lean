import UsageBilling.Fault
import UsageBilling.Subscription.Snapshot
import UsageBilling.Usage
/-!
The store: usage rows in the order they were written, and at most one subscription per tenant. Each
method can be switched off, and then fails before it does anything.
-/
namespace UsageBilling

namespace Store

inductive Method where
  | insertUsage
  | periodUsage
  | unreportedUsage
  | markReported
  | healthCheck
  | findByTenant
  | findByProviderSubscription
  | insertIfAbsent
  | setProviderCustomer
  | applySnapshot
  | syncSnapshot
  | markCanceled
  deriving DecidableEq, Repr

namespace Method

def all : List Method :=
  [insertUsage, periodUsage, unreportedUsage, markReported, healthCheck, findByTenant,
   findByProviderSubscription, insertIfAbsent, setProviderCustomer, applySnapshot, syncSnapshot, markCanceled]

def name : Method → String
  | insertUsage => "insert_usage"
  | periodUsage => "period_usage"
  | unreportedUsage => "unreported_usage"
  | markReported => "mark_reported"
  | healthCheck => "health_check"
  | findByTenant => "find_by_tenant"
  | findByProviderSubscription => "find_by_provider_subscription"
  | insertIfAbsent => "insert_if_absent"
  | setProviderCustomer => "set_provider_customer"
  | applySnapshot => "apply_snapshot"
  | syncSnapshot => "sync_snapshot"
  | markCanceled => "mark_canceled"

def ofName? (name : String) : Option Method := all.find? fun method => method.name == name

def outage : Method → Fault
  | insertUsage => .database ⟨"usage writes are disabled", []⟩
  | method => .database ⟨method.name ++ " is disabled", []⟩

end Method

end Store

structure Store where
  usage : List UsageRow := []
  subscriptions : List Subscription := []
  /-- How many batches of usage have been written. -/
  batches : Nat := 0
  outages : List Store.Method := []
  deriving DecidableEq, Inhabited

namespace Store

def isDown (store : Store) (method : Method) : Bool := store.outages.contains method

def setOutage (store : Store) (method : Method) (down : Bool) : Store :=
  let others := store.outages.filter (· ≠ method)
  { store with outages := if down then method :: others else others }

/-- The answer of a method and the store after it; a method that is off changes nothing. -/
def guarded {α : Type} (store : Store) (method : Method) (run : Except Fault α × Store) :
    Except Fault α × Store :=
  if store.isDown method then (.error method.outage, store) else run

def healthCheck (store : Store) : Except Fault Unit :=
  (store.guarded .healthCheck (.ok (), store)).1

end Store

end UsageBilling
