import UsageBilling.Subscription.Lifecycle
import UsageBilling.Webhook.Acceptance
/-!
What is done about an accepted event.
-/
namespace UsageBilling.Webhook

inductive Outcome where
  | synced (subscriptionId : String) (outcome : SyncOutcome)
  | logged
  | ignored
  deriving DecidableEq, Repr

def Outcome.label : Outcome → String
  | synced .. => "synced"
  | logged => "logged"
  | ignored => "ignored"

def dispatch (catalog : Catalog) (event : Event) : ExceptT Error Program Outcome :=
  match Interest.ofType event.type, event.subscriptionId? with
  | .sync, some id => do
    match ← (Lifecycle.sync catalog id).outcome with
    | .ok outcome => return .synced id outcome
    | .error fault => throw (.handling event.id event.type fault)
  | .log, _ => return .logged
  | _, _ => return .ignored

end UsageBilling.Webhook
