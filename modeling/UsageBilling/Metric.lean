import UsageBilling.Uuid
/-!
The resources whose use is counted, and the key under which a tenant's use of one is gathered.
-/
namespace UsageBilling

inductive Metric where
  | testRuns
  | aiTokens
  | sandboxMinutes
  deriving DecidableEq, Repr, Inhabited

namespace Metric

def all : List Metric := [testRuns, aiTokens, sandboxMinutes]

def name : Metric → String
  | testRuns => "test_runs"
  | aiTokens => "ai_tokens"
  | sandboxMinutes => "sandbox_minutes"

def ofName? (name : String) : Option Metric := all.find? fun metric => metric.name == name

theorem mem_all (metric : Metric) : metric ∈ all := by
  cases metric <;> decide

theorem ofName?_name (metric : Metric) : ofName? metric.name = some metric := by
  cases metric <;> decide

end Metric

structure UsageKey where
  tenant : Uuid
  metric : Metric
  deriving DecidableEq, Repr

namespace UsageKey

def text (key : UsageKey) : String := key.tenant.text ++ ":" ++ key.metric.name

end UsageKey

end UsageBilling
