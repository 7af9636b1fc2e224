import UsageBilling.Subscription.Snapshot
/-!
What the service does and keeps count of.
-/
namespace UsageBilling

inductive Operation where
  | createFreeTier
  | createCustomer
  | subscribe
  | cancelLocal
  | cancelImmediate
  | cancelAtPeriodEnd
  | changePlan
  | checkout
  | sync (outcome : SyncOutcome)
  deriving DecidableEq, Repr

def Operation.name : Operation → String
  | createFreeTier => "create_free_tier"
  | createCustomer => "create_customer"
  | subscribe => "subscribe"
  | cancelLocal => "cancel_local"
  | cancelImmediate => "cancel_immediate"
  | cancelAtPeriodEnd => "cancel_at_period_end"
  | changePlan => "change_plan"
  | checkout => "checkout"
  | sync outcome => "sync_" ++ outcome.name

inductive GroupOutcome where
  /-- It was billed and its rows are marked with the provider's record. -/
  | reported
  /-- It may become billable and is left alone. -/
  | skipped
  /-- It can never be billed and its rows are marked without a record. -/
  | retired
  /-- Something went wrong, and the next pass tries again. -/
  | failed
  deriving DecidableEq, Repr

def GroupOutcome.name : GroupOutcome → String
  | reported => "reported"
  | skipped => "skipped"
  | retired => "retired"
  | failed => "failed"

end UsageBilling
