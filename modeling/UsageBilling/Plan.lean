import UsageBilling.Metric
/-!
Plans and what they grant: a cap on each resource per period, features, a price and a trial.
-/
namespace UsageBilling

inductive Plan where
  | free
  | pro
  | enterprise
  deriving DecidableEq, Repr, Inhabited

namespace Plan

def all : List Plan := [free, pro, enterprise]

def name : Plan → String
  | free => "free"
  | pro => "pro"
  | enterprise => "enterprise"

def ofName? (name : String) : Option Plan := all.find? fun plan => plan.name == name

theorem ofName?_name (plan : Plan) : ofName? plan.name = some plan := by
  cases plan <;> decide

end Plan

def unlimited : Int := -1

structure Limits where
  testRuns : Int
  aiTokens : Int
  sandboxMinutes : Int
  deriving DecidableEq, Repr

namespace Limits

def get (limits : Limits) : Metric → Int
  | .testRuns => limits.testRuns
  | .aiTokens => limits.aiTokens
  | .sandboxMinutes => limits.sandboxMinutes

theorem get_mk (limit : Metric → Int) (metric : Metric) :
    (Limits.mk (limit .testRuns) (limit .aiTokens) (limit .sandboxMinutes)).get metric = limit metric := by
  cases metric <;> rfl

end Limits

structure PlanTerms where
  plan : Plan
  priceId : Option String
  monthlyPriceCents : Int
  limits : Limits
  features : List String
  trialDays : Nat
  deriving DecidableEq, Repr

namespace PlanTerms

def hasFeature (terms : PlanTerms) (feature : String) : Bool := terms.features.contains feature

end PlanTerms

structure PriceIds where
  pro : Option String := none
  enterprise : Option String := none
  deriving DecidableEq, Repr, Inhabited

/-- The plans on offer. An empty price id counts as none. -/
structure Catalog where
  prices : PriceIds
  deriving DecidableEq, Repr, Inhabited

namespace Catalog

def priceOf (catalog : Catalog) (plan : Plan) : Option String :=
  let id := match plan with
    | .free => none
    | .pro => catalog.prices.pro
    | .enterprise => catalog.prices.enterprise
  id.filter (· ≠ "")

def terms (catalog : Catalog) : Plan → PlanTerms
  | .free => {
      plan := .free
      priceId := catalog.priceOf .free
      monthlyPriceCents := 0
      limits := ⟨50, 10000, 60⟩
      features := ["basic_reports", "email_support"]
      trialDays := 0 }
  | .pro => {
      plan := .pro
      priceId := catalog.priceOf .pro
      monthlyPriceCents := 9900
      limits := ⟨500, 100000, 600⟩
      features := ["basic_reports", "self_healing", "visual_ai", "priority_support"]
      trialDays := 14 }
  | .enterprise => {
      plan := .enterprise
      priceId := catalog.priceOf .enterprise
      monthlyPriceCents := 0
      limits := ⟨unlimited, unlimited, unlimited⟩
      features := ["basic_reports", "self_healing", "visual_ai", "sso", "audit_log",
        "dedicated_support", "sla"]
      trialDays := 30 }

def lookup? (catalog : Catalog) (name : String) : Option PlanTerms :=
  (Plan.ofName? name).map catalog.terms

/-- The terms of the plan called `name`; a name that is not on offer gets the free plan. -/
def resolve (catalog : Catalog) (name : String) : PlanTerms :=
  (catalog.lookup? name).getD (catalog.terms .free)

def planForPrice? (catalog : Catalog) (price : String) : Option Plan :=
  Plan.all.find? fun plan => catalog.priceOf plan == some price

end Catalog

end UsageBilling
