import UsageBilling.Json.Basic
import UsageBilling.Metric
import UsageBilling.Period
import UsageBilling.Quantity
/-!
Usage: rows as a flush writes them, groups of rows that have not been reported to the billing
provider, and the totals of a period.
-/
namespace UsageBilling

structure NewUsage where
  tenant : Uuid
  metric : Metric
  quantity : Int
  period : Period
  deriving DecidableEq, Repr

structure UsageRow where
  id : Uuid
  tenant : Uuid
  metric : String
  quantity : Int
  period : Period
  reported : Bool
  providerUsageId : Option String
  reportedAt : Option Instant
  metadata : Option Json
  createdAt : Instant
  updatedAt : Instant
  deriving DecidableEq

namespace UsageRow

def fresh (id : Uuid) (usage : NewUsage) (now : Instant) : UsageRow where
  id
  tenant := usage.tenant
  metric := usage.metric.name
  quantity := usage.quantity
  period := usage.period
  reported := false
  providerUsageId := none
  reportedAt := none
  metadata := none
  createdAt := now
  updatedAt := now

def markReported (row : UsageRow) (providerUsageId : Option String) (now : Instant) : UsageRow :=
  { row with reported := true, providerUsageId, reportedAt := some now, updatedAt := now }

end UsageRow

/-- The unreported rows of one tenant, metric and period. -/
structure UsageGroup where
  tenant : Uuid
  metric : String
  period : Period
  quantity : Int
  rowIds : List Uuid
  deriving DecidableEq, Repr

structure UsageTotals where
  period : Period
  testRuns : Int := 0
  aiTokens : Int := 0
  sandboxMinutes : Int := 0
  deriving DecidableEq, Repr

namespace UsageTotals

def get (totals : UsageTotals) : Metric → Int
  | .testRuns => totals.testRuns
  | .aiTokens => totals.aiTokens
  | .sandboxMinutes => totals.sandboxMinutes

def set (totals : UsageTotals) (metric : Metric) (value : Int) : UsageTotals :=
  match metric with
  | .testRuns => { totals with testRuns := value }
  | .aiTokens => { totals with aiTokens := value }
  | .sandboxMinutes => { totals with sandboxMinutes := value }

theorem get_set (totals : UsageTotals) (written asked : Metric) (value : Int) :
    (totals.set written value).get asked = if asked = written then value else totals.get asked := by
  cases written <;> cases asked <;> rfl

end UsageTotals

end UsageBilling
