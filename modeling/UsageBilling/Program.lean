import UsageBilling.Counters
import UsageBilling.Provider.Call
import UsageBilling.Subscription.Snapshot
import UsageBilling.Usage
/-!
Programs: sequences of actions of the service, where each action may depend on the replies to those
before it. Between two actions of one program others may come in.
-/
namespace UsageBilling

inductive Action where
  | now
  | newId
  | findByTenant (tenant : Uuid)
  | insertIfAbsent (row : Subscription)
  | setProviderCustomer (tenant : Uuid) (customerId : String)
  | applySnapshot (tenant : Uuid) (snapshot : Snapshot)
  | syncSnapshot (snapshot : Snapshot)
  | markCanceled (tenant : Uuid)
  | periodUsage (tenant : Uuid) (metric : Metric) (moment : Instant)
  | unreportedUsage
  | markReported (ids : List Uuid) (usageId : Option String)
  | healthCheck
  | isClosed
  | pending (key : UsageKey)
  | track (key : UsageKey) (quantity : Nat)
  /-- A flush that somebody asked for. -/
  | flush
  | ask (call : Provider.Call)
  | count (counter : Counter)
  | counters
  deriving DecidableEq

namespace Action

abbrev Reply : Action → Type
  | now => Instant
  | newId => Uuid
  | findByTenant _ => Except Fault (Option Subscription)
  | insertIfAbsent _ | setProviderCustomer .. | applySnapshot .. | markCanceled _ =>
    Except Fault Subscription
  | syncSnapshot _ => Except Fault SyncOutcome
  | periodUsage .. => Except Fault Int
  | unreportedUsage => Except Fault (List UsageGroup)
  | markReported .. => Except Fault Nat
  | healthCheck => Except Fault Unit
  | isClosed => Bool
  | pending _ => Int
  | track .. => Except Tracker.Error Unit
  | flush => Except Fault FlushReport
  | ask call => Except Provider.Error call.Answer
  | count _ => Unit
  | counters => Counters

end Action

inductive Program (α : Type) : Type where
  | done (result : α)
  | step (action : Action) (next : action.Reply → Program α)

namespace Program

variable {α β : Type}

def bind : Program α → (α → Program β) → Program β
  | done result, next => next result
  | step action rest, next => step action fun reply => (rest reply).bind next

instance : Monad Program where
  pure := done
  bind := bind

end Program

def perform (action : Action) : Program action.Reply := .step action .done

def trackTestRun (tenant : Uuid) : Program (Except Tracker.Error Unit) :=
  perform (.track ⟨tenant, .testRuns⟩ 1)

def trackAiTokens (tenant : Uuid) (tokens : Nat) : Program (Except Tracker.Error Unit) :=
  perform (.track ⟨tenant, .aiTokens⟩ tokens)

def trackSandboxMinutes (tenant : Uuid) (minutes : Nat) : Program (Except Tracker.Error Unit) :=
  perform (.track ⟨tenant, .sandboxMinutes⟩ minutes)

/-- A program that may end with a fault. -/
abbrev Attempt (α : Type) : Type := ExceptT Fault Program α

def orFail {α : Type} (program : Program (Except Fault α)) : Attempt α := ExceptT.mk program

def Attempt.outcome {α : Type} (attempt : Attempt α) : Program (Except Fault α) := ExceptT.run attempt

end UsageBilling
