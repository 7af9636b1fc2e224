import UsageBilling.Json.Printer
import UsageBilling.Json.Record
import UsageBilling.Subscription.Basic
/-!
Subscriptions as JSON records.
-/
namespace UsageBilling

namespace Json

def ofInstant (instant : Instant) : Json := .str instant.text

def ofUuid (id : Uuid) : Json := .str id.text

def ofPeriod (period : Period) : Json :=
  .obj [("start", ofInstant period.start), ("end", ofInstant period.finish)]

end Json

namespace Subscription

open Json in
def toJson (row : Subscription) : Json :=
  .obj [
    ("id", ofUuid row.id),
    ("tenant_id", ofUuid row.tenant),
    ("provider_customer_id", ofText? row.customerId),
    ("provider_subscription_id", ofText? row.providerId),
    ("provider_price_id", ofText? row.priceId),
    ("plan", .str row.plan),
    ("status", .str row.status),
    ("billing_cycle_anchor", ofOption ofInstant row.billingAnchor),
    ("current_period_start", ofOption ofInstant row.periodStart),
    ("current_period_end", ofOption ofInstant row.periodEnd),
    ("trial_start", ofOption ofInstant row.trialStart),
    ("trial_end", ofOption ofInstant row.trialEnd),
    ("cancel_at", ofOption ofInstant row.cancelAt),
    ("canceled_at", ofOption ofInstant row.canceledAt),
    ("cancel_at_period_end", .bool row.cancelAtPeriodEnd),
    ("default_payment_method_id", ofText? row.paymentMethodId),
    ("metadata", row.metadata.getD .null),
    ("created_at", ofInstant row.createdAt),
    ("updated_at", ofInstant row.updatedAt)]

open Json in
def fields : List (RecordField Subscription) := [
  .required "id" Reader.uuid fun value row => { row with id := value },
  .required "tenant_id" Reader.uuid fun value row => { row with tenant := value },
  .optional "provider_customer_id" Reader.string fun value row => { row with customerId := value },
  .optional "provider_subscription_id" Reader.string fun value row => { row with providerId := value },
  .optional "provider_price_id" Reader.string fun value row => { row with priceId := value },
  .required "plan" Reader.string fun value row => { row with plan := value },
  .required "status" Reader.string fun value row => { row with status := value },
  .optional "billing_cycle_anchor" Reader.instant fun value row => { row with billingAnchor := value },
  .optional "current_period_start" Reader.instant fun value row => { row with periodStart := value },
  .optional "current_period_end" Reader.instant fun value row => { row with periodEnd := value },
  .optional "trial_start" Reader.instant fun value row => { row with trialStart := value },
  .optional "trial_end" Reader.instant fun value row => { row with trialEnd := value },
  .optional "cancel_at" Reader.instant fun value row => { row with cancelAt := value },
  .optional "canceled_at" Reader.instant fun value row => { row with canceledAt := value },
  .required "cancel_at_period_end" Reader.boolean fun value row => { row with cancelAtPeriodEnd := value },
  .optional "default_payment_method_id" Reader.string fun value row => { row with paymentMethodId := value },
  .optional "metadata" Reader.value fun value row => { row with metadata := value },
  .required "created_at" Reader.instant fun value row => { row with createdAt := value },
  .required "updated_at" Reader.instant fun value row => { row with updatedAt := value }]

def blank : Subscription := .freeTier .zero .zero ⟨0, 0⟩

def reader : Json.Reader Subscription := Json.Reader.record fields { blank with
  billingAnchor := none
  periodStart := none
  periodEnd := none }

end Subscription

end UsageBilling
