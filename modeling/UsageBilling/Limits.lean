import UsageBilling.Subscription.Lifecycle
/-!
How much a tenant has used in the current period, and whether that reaches the limits of its plan.
-/
namespace UsageBilling

structure LimitCheck where
  metric : String
  exceeded : Bool
  limit : Int
  currentUsage : Int
  deriving DecidableEq, Repr

namespace LimitCheck

/-- Stored and pending usage together. Pending usage is read first: what a flush stores in between is
counted twice and never missed. -/
def usage (tenant : Uuid) (metric : Metric) : Attempt Int := do
  let pending ← perform (.pending ⟨tenant, metric⟩)
  let now ← perform .now
  let stored ← orFail (perform (.periodUsage tenant metric now))
  return Quantity.add stored pending

/-- Checks one metric. A name that is no metric has neither usage nor limit. -/
def check (catalog : Catalog) (tenant : Uuid) (metricName : String) : Attempt LimitCheck := do
  match Metric.ofName? metricName with
  | none => return ⟨metricName, false, unlimited, 0⟩
  | some metric =>
    let current ← usage tenant metric
    let (exceeded, limit) ← Lifecycle.checkUsageLimit catalog tenant metricName current
    if exceeded then perform (.count (.limitExceeded metric))
    return ⟨metric.name, exceeded, limit, current⟩

def checkAll (catalog : Catalog) (tenant : Uuid) : Attempt (List LimitCheck) :=
  Metric.all.mapM fun metric => check catalog tenant metric.name

end LimitCheck

namespace UsageTotals

def gather (tenant : Uuid) (now : Instant) : List Metric → UsageTotals → Attempt UsageTotals
  | [], totals => return totals
  | metric :: metrics, totals => do
    let used ← orFail (perform (.periodUsage tenant metric now))
    gather tenant now metrics (totals.set metric used)

/-- The billing period of a tenant. Where the row cannot be read it is the calendar month. -/
def periodOf (tenant : Uuid) (moment : Instant) : Program Period := do
  match ← perform (.findByTenant tenant) with
  | .ok row => return .ofSubscription row moment
  | .error _ => return .calendarMonth moment

def current (tenant : Uuid) : Attempt UsageTotals := do
  let _ ← orFail (perform .flush)
  let now ← perform .now
  let period ← periodOf tenant now
  gather tenant now Metric.all { period }

end UsageTotals

end UsageBilling
