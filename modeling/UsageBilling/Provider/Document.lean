import UsageBilling.Provider.Call
import UsageBilling.Subscription.Document
/-!
Calls to the billing provider and its records as JSON.
-/
namespace UsageBilling.Provider

open Json (ofText? ofOption)

def textsJson (entries : List (String × String)) : Json :=
  .obj (entries.map fun (key, value) => (key, .str value))

def pairsJson (pairs : List (String × String)) : Json :=
  .arr (pairs.map fun (key, value) => .arr [.str key, .str value])

def Customer.toJson (customer : Customer) : Json :=
  .obj [
    ("id", .str customer.id),
    ("email", ofText? customer.email),
    ("name", ofText? customer.name),
    ("metadata", textsJson customer.metadata)]

def Price.toJson (price : Price) : Json :=
  .obj [
    ("id", .str price.id),
    ("lookup_key", ofText? price.lookupKey),
    ("metadata", textsJson price.metadata)]

def Item.toJson (item : Item) : Json := .obj [("id", .str item.id), ("price", item.price.toJson)]

def RemoteSubscription.entries (remote : RemoteSubscription) : List (String × Json) :=
  [
    ("id", .str remote.id),
    ("customer", ofText? remote.customer),
    ("status", .str remote.status),
    ("current_period_start", ofOption .int remote.periodStart),
    ("current_period_end", ofOption .int remote.periodEnd),
    ("cancel_at_period_end", .bool remote.cancelAtPeriodEnd),
    ("cancel_at", ofOption .int remote.cancelAt),
    ("canceled_at", ofOption .int remote.canceledAt),
    ("trial_start", ofOption .int remote.trialStart),
    ("trial_end", ofOption .int remote.trialEnd),
    ("items", .arr (remote.items.map Item.toJson)),
    ("default_payment_method", ofText? remote.paymentMethod),
    ("metadata", textsJson remote.metadata),
    ("primary_price_id", ofText? remote.primaryPriceId?)]

def UsageRecord.toJson (record : UsageRecord) : Json :=
  .obj [
    ("id", .str record.id),
    ("quantity", .int record.quantity),
    ("subscription_item", ofText? record.item)]

def PortalSession.toJson (session : PortalSession) : Json :=
  .obj [("id", .str session.id), ("url", .str session.url)]

def CheckoutSession.toJson (session : CheckoutSession) : Json :=
  .obj [("id", ofText? session.id), ("url", .str session.url)]

def invoicesJson (invoices : List Invoice) : Json := .arr (invoices.map Invoice.toJson)

def Call.answerJson : (call : Call) → call.Answer → Json
  | .createCustomer _, answer | .getCustomer _, answer => Customer.toJson answer
  | .createSubscription _, answer | .getSubscription _, answer | .updateSubscription .., answer
  | .cancelSubscription .., answer => .obj (RemoteSubscription.entries answer)
  | .createUsageRecord _, answer => UsageRecord.toJson answer
  | .createPortalSession .., answer => PortalSession.toJson answer
  | .createCheckoutSession _, answer => CheckoutSession.toJson answer
  | .upcomingInvoice _, answer => Invoice.toJson answer
  | .listInvoices .., answer => invoicesJson answer

def ItemPrice.toJson (change : ItemPrice) : Json :=
  .obj [("item_id", .str change.itemId), ("price_id", .str change.priceId)]

def Call.entries : Call → List (String × Json)
  | createCustomer request => [
      ("tenant_id", Json.ofUuid request.tenant),
      ("email", .str request.email),
      ("name", .str request.name)]
  | getCustomer id | getSubscription id => [("id", .str id)]
  | createSubscription request => [
      ("customer_id", .str request.customerId),
      ("price_id", .str request.priceId),
      ("trial_days", .int request.trialDays),
      ("default_payment_method", ofText? request.paymentMethod),
      ("metadata", pairsJson request.metadata)]
  | updateSubscription id update => [
      ("id", .str id),
      ("item_price", ofOption ItemPrice.toJson update.itemPrice),
      ("proration_behavior", ofText? update.prorationBehavior),
      ("cancel_at_period_end", ofOption .bool update.cancelAtPeriodEnd),
      ("default_payment_method", ofText? update.paymentMethod),
      ("metadata", pairsJson update.metadata)]
  | cancelSubscription id atPeriodEnd => [("id", .str id), ("at_period_end", .bool atPeriodEnd)]
  | createUsageRecord report => [
      ("item", .str report.itemId),
      ("quantity", .int report.quantity),
      ("timestamp", .int report.timestamp),
      ("action", .str report.action.name),
      ("idempotency_key", ofText? report.idempotencyKey)]
  | createPortalSession customerId returnUrl =>
    [("customer_id", .str customerId), ("return_url", .str returnUrl)]
  | createCheckoutSession request => [
      ("price_id", .str request.priceId),
      ("success_url", .str request.successUrl),
      ("cancel_url", .str request.cancelUrl),
      ("customer_id", ofText? request.customerId),
      ("customer_email", ofText? request.customerEmail),
      ("metadata", pairsJson request.metadata)]
  | upcomingInvoice customerId => [("customer_id", .str customerId)]
  | listInvoices customerId limit => [("customer_id", .str customerId), ("limit", .int limit)]

def Call.toJson (call : Call) : Json := .obj (("call", .str call.name) :: call.entries)

end UsageBilling.Provider
