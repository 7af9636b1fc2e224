import UsageBilling.Subscription.Basic
/-!
Snapshots: the fields of a row that the billing provider decides. Plan and price are written
together, and only if the snapshot names a plan.
-/
namespace UsageBilling

structure Snapshot where
  providerId : String
  priceId : Option String
  plan : Option Plan
  status : String
  periodStart : Option Instant
  periodEnd : Option Instant
  trialStart : Option Instant
  trialEnd : Option Instant
  cancelAt : Option Instant
  canceledAt : Option Instant
  cancelAtPeriodEnd : Bool
  paymentMethodId : Option String
  deriving DecidableEq, Repr

namespace Snapshot

def overwrite (snapshot : Snapshot) (row : Subscription) : Subscription :=
  { row with
    providerId := some snapshot.providerId
    plan := match snapshot.plan with
      | some plan => plan.name
      | none => row.plan
    priceId := if snapshot.plan.isSome then snapshot.priceId else row.priceId
    status := snapshot.status
    periodStart := snapshot.periodStart
    periodEnd := snapshot.periodEnd
    trialStart := snapshot.trialStart
    trialEnd := snapshot.trialEnd
    cancelAt := snapshot.cancelAt
    canceledAt := snapshot.canceledAt
    cancelAtPeriodEnd := snapshot.cancelAtPeriodEnd
    paymentMethodId := snapshot.paymentMethodId }

def changes (snapshot : Snapshot) (row : Subscription) : Bool := snapshot.overwrite row ≠ row

/-- The row after the snapshot, stamped with `now` if that changed anything. -/
def apply (snapshot : Snapshot) (row : Subscription) (now : Instant) : Subscription :=
  if snapshot.changes row then { snapshot.overwrite row with updatedAt := now } else row

end Snapshot

inductive SyncOutcome where
  | updated
  | unchanged
  | notFound
  deriving DecidableEq, Repr

namespace SyncOutcome

def name : SyncOutcome → String
  | updated => "updated"
  | unchanged => "unchanged"
  | notFound => "not_found"

end SyncOutcome

end UsageBilling
