import UsageBilling.Fault
import UsageBilling.Provider.Records
/-!
Calls to the billing provider, the kind of answer each one has, and the errors that may come
instead.
-/
namespace UsageBilling.Provider

inductive Error where
  | refused (status : Nat) (detail : String) (kind : Option String)
  | transport (detail : String)
  | unreadable (detail : String)
  | notConfigured
  deriving DecidableEq, Repr

namespace Error

def message : Error → String
  | refused status detail _ => "provider API error (" ++ toString status ++ "): " ++ detail
  | transport detail => "provider transport error: " ++ detail
  | unreadable detail => "unexpected provider response: " ++ detail
  | notConfigured => "billing provider is not configured"

def isNotFound : Error → Bool
  | refused status _ _ => status = 404
  | _ => false

def toFault : Error → Fault
  | notConfigured => .unavailable
  | error => .badGateway error.message

end Error

structure NewCustomer where
  tenant : Uuid
  email : String
  name : String
  deriving DecidableEq, Repr

structure NewSubscription where
  customerId : String
  priceId : String
  trialDays : Nat
  paymentMethod : Option String
  metadata : List (String × String)
  deriving DecidableEq, Repr

structure ItemPrice where
  itemId : String
  priceId : String
  deriving DecidableEq, Repr

/-- A change of a subscription. What is not set stays as it is. -/
structure SubscriptionUpdate where
  itemPrice : Option ItemPrice := none
  prorationBehavior : Option String := none
  cancelAtPeriodEnd : Option Bool := none
  paymentMethod : Option String := none
  metadata : List (String × String) := []
  deriving DecidableEq, Repr

inductive UsageAction where
  /-- Adds to what has been reported for the period. -/
  | increment
  /-- Replaces what has been reported for the period. -/
  | set
  deriving DecidableEq, Repr

namespace UsageAction

def name : UsageAction → String
  | increment => "increment"
  | set => "set"

def ofName? (name : String) : Option UsageAction :=
  [increment, set].find? fun action => action.name == name

end UsageAction

structure UsageReport where
  itemId : String
  quantity : Int
  timestamp : Int
  action : UsageAction
  /-- The provider books requests with the same key once. -/
  idempotencyKey : Option String
  deriving DecidableEq, Repr

structure NewCheckout where
  priceId : String
  successUrl : String
  cancelUrl : String
  customerId : Option String
  customerEmail : Option String
  metadata : List (String × String)
  deriving DecidableEq, Repr

inductive Call where
  | createCustomer (request : NewCustomer)
  | getCustomer (id : String)
  | createSubscription (request : NewSubscription)
  | getSubscription (id : String)
  | updateSubscription (id : String) (update : SubscriptionUpdate)
  | cancelSubscription (id : String) (atPeriodEnd : Bool)
  | createUsageRecord (report : UsageReport)
  | createPortalSession (customerId returnUrl : String)
  | createCheckoutSession (request : NewCheckout)
  | upcomingInvoice (customerId : String)
  | listInvoices (customerId : String) (limit : Nat)
  deriving DecidableEq, Repr

namespace Call

def name : Call → String
  | createCustomer _ => "create_customer"
  | getCustomer _ => "get_customer"
  | createSubscription _ => "create_subscription"
  | getSubscription _ => "get_subscription"
  | updateSubscription .. => "update_subscription"
  | cancelSubscription .. => "cancel_subscription"
  | createUsageRecord _ => "create_usage_record"
  | createPortalSession .. => "create_portal_session"
  | createCheckoutSession _ => "create_checkout_session"
  | upcomingInvoice _ => "upcoming_invoice"
  | listInvoices .. => "list_invoices"

abbrev Answer : Call → Type
  | createCustomer _ | getCustomer _ => Customer
  | createSubscription _ | getSubscription _ | updateSubscription .. | cancelSubscription .. =>
    RemoteSubscription
  | createUsageRecord _ => UsageRecord
  | createPortalSession .. => PortalSession
  | createCheckoutSession _ => CheckoutSession
  | upcomingInvoice _ => Invoice
  | listInvoices .. => List Invoice

def reader : (call : Call) → Json.Reader call.Answer
  | createCustomer _ | getCustomer _ => Customer.reader
  | createSubscription _ | getSubscription _ | updateSubscription .. | cancelSubscription .. =>
    RemoteSubscription.reader
  | createUsageRecord _ => UsageRecord.reader
  | createPortalSession .. => PortalSession.reader
  | createCheckoutSession _ => CheckoutSession.reader
  | upcomingInvoice _ => Invoice.reader
  | listInvoices .. => Json.Reader.list Invoice.reader

/-- Reads an answer as it stands in the body of a reply over HTTP, where lists are wrapped. -/
def bodyReader : (call : Call) → Json.Reader call.Answer
  | listInvoices .. => Invoice.listReader
  | call => call.reader

end Call

end UsageBilling.Provider
