import UsageBilling.Json.Record
/-!
Records of the billing provider, as it answers with them.
-/
namespace UsageBilling.Provider

structure Customer where
  id : String := ""
  email : Option String := none
  name : Option String := none
  metadata : List (String × String) := []
  deriving DecidableEq, Repr, Inhabited

structure Price where
  id : String := ""
  lookupKey : Option String := none
  metadata : List (String × String) := []
  deriving DecidableEq, Repr, Inhabited

structure Item where
  id : String := ""
  price : Price := {}
  deriving DecidableEq, Repr, Inhabited

/-- A subscription as the provider sees it. Times are unix seconds. -/
structure RemoteSubscription where
  id : String := ""
  customer : Option String := none
  status : String := ""
  periodStart : Option Int := none
  periodEnd : Option Int := none
  cancelAtPeriodEnd : Bool := false
  cancelAt : Option Int := none
  canceledAt : Option Int := none
  trialStart : Option Int := none
  trialEnd : Option Int := none
  items : List Item := []
  paymentMethod : Option String := none
  metadata : List (String × String) := []
  deriving DecidableEq, Repr, Inhabited

structure UsageRecord where
  id : String := ""
  quantity : Int := 0
  item : Option String := none
  deriving DecidableEq, Repr, Inhabited

structure PortalSession where
  id : String := ""
  url : String := ""
  deriving DecidableEq, Repr, Inhabited

structure CheckoutSession where
  id : Option String := none
  url : String := ""
  deriving DecidableEq, Repr, Inhabited

/-- Amounts are in the smallest unit of the currency. An invoice that is still to come has no id. -/
structure Invoice where
  id : Option String := none
  customer : Option String := none
  subscription : Option String := none
  status : Option String := none
  number : Option String := none
  currency : String := ""
  amountDue : Int := 0
  amountPaid : Int := 0
  amountRemaining : Int := 0
  subtotal : Int := 0
  total : Int := 0
  tax : Option Int := none
  periodStart : Option Int := none
  periodEnd : Option Int := none
  created : Option Int := none
  dueDate : Option Int := none
  paid : Bool := false
  hostedInvoiceUrl : Option String := none
  invoicePdf : Option String := none
  deriving DecidableEq, Repr, Inhabited

open Json

namespace Customer

def fields : List (RecordField Customer) := [
  .required "id" Reader.string fun value record => { record with id := value },
  .defaultedOptional "email" Reader.string fun value record => { record with email := value },
  .defaultedOptional "name" Reader.string fun value record => { record with name := value },
  .defaulted "metadata" Reader.textMap fun value record => { record with metadata := value }]

def reader : Reader Customer := Reader.record fields {}

end Customer

namespace Price

def fields : List (RecordField Price) := [
  .required "id" Reader.string fun value record => { record with id := value },
  .defaultedOptional "lookup_key" Reader.string fun value record => { record with lookupKey := value },
  .defaulted "metadata" Reader.textMap fun value record => { record with metadata := value }]

def reader : Reader Price := Reader.record fields {}

def meters (price : Price) (metric : String) : Bool :=
  price.lookupKey = some metric || price.metadata.lookup "lookup_key" = some metric

end Price

namespace Item

def fields : List (RecordField Item) := [
  .required "id" Reader.string fun value record => { record with id := value },
  .defaulted "price" Price.reader fun value record => { record with price := value }]

def reader : Reader Item := Reader.record fields {}

def listReader : Reader (List Item) :=
  Reader.record [.defaulted "data" (Reader.list reader) fun value _ => value] []

end Item

namespace RemoteSubscription

def fields : List (RecordField RemoteSubscription) := [
  .required "id" Reader.string fun value record => { record with id := value },
  .defaultedOptional "customer" Reader.string fun value record => { record with customer := value },
  .required "status" Reader.string fun value record => { record with status := value },
  .defaultedOptional "current_period_start" Reader.signed64
    fun value record => { record with periodStart := value },
  .defaultedOptional "current_period_end" Reader.signed64
    fun value record => { record with periodEnd := value },
  .defaulted "cancel_at_period_end" Reader.boolean
    fun value record => { record with cancelAtPeriodEnd := value },
  .defaultedOptional "cancel_at" Reader.signed64 fun value record => { record with cancelAt := value },
  .defaultedOptional "canceled_at" Reader.signed64
    fun value record => { record with canceledAt := value },
  .defaultedOptional "trial_start" Reader.signed64
    fun value record => { record with trialStart := value },
  .defaultedOptional "trial_end" Reader.signed64 fun value record => { record with trialEnd := value },
  .defaulted "items" Item.listReader fun value record => { record with items := value },
  .defaultedOptional "default_payment_method" Reader.string
    fun value record => { record with paymentMethod := value },
  .defaulted "metadata" Reader.textMap fun value record => { record with metadata := value }]

def reader : Reader RemoteSubscription := Reader.record fields {}

def primaryPriceId? (remote : RemoteSubscription) : Option String :=
  remote.items.head?.map fun item => item.price.id

def itemFor? (remote : RemoteSubscription) (metric : String) : Option Item :=
  remote.items.find? fun item => item.price.meters metric

end RemoteSubscription

def UsageRecord.reader : Reader UsageRecord := Reader.record [
  .required "id" Reader.string fun value record => { record with id := value },
  .defaulted "quantity" Reader.signed64 fun value record => { record with quantity := value },
  .defaultedOptional "subscription_item" Reader.string
    fun value record => { record with item := value }] {}

def PortalSession.reader : Reader PortalSession := Reader.record [
  .required "id" Reader.string fun value record => { record with id := value },
  .required "url" Reader.string fun value record => { record with url := value }] {}

def CheckoutSession.reader : Reader CheckoutSession := Reader.record [
  .defaultedOptional "id" Reader.string fun value record => { record with id := value },
  .required "url" Reader.string fun value record => { record with url := value }] {}

namespace Invoice

def fields : List (RecordField Invoice) := [
  .defaultedOptional "id" Reader.string fun value record => { record with id := value },
  .defaultedOptional "customer" Reader.string fun value record => { record with customer := value },
  .defaultedOptional "subscription" Reader.string
    fun value record => { record with subscription := value },
  .defaultedOptional "status" Reader.string fun value record => { record with status := value },
  .defaultedOptional "number" Reader.string fun value record => { record with number := value },
  .defaulted "currency" Reader.string fun value record => { record with currency := value },
  .defaulted "amount_due" Reader.signed64 fun value record => { record with amountDue := value },
  .defaulted "amount_paid" Reader.signed64 fun value record => { record with amountPaid := value },
  .defaulted "amount_remaining" Reader.signed64
    fun value record => { record with amountRemaining := value },
  .defaulted "subtotal" Reader.signed64 fun value record => { record with subtotal := value },
  .defaulted "total" Reader.signed64 fun value record => { record with total := value },
  .defaultedOptional "tax" Reader.signed64 fun value record => { record with tax := value },
  .defaultedOptional "period_start" Reader.signed64
    fun value record => { record with periodStart := value },
  .defaultedOptional "period_end" Reader.signed64
    fun value record => { record with periodEnd := value },
  .defaultedOptional "created" Reader.signed64 fun value record => { record with created := value },
  .defaultedOptional "due_date" Reader.signed64 fun value record => { record with dueDate := value },
  .defaulted "paid" Reader.boolean fun value record => { record with paid := value },
  .defaultedOptional "hosted_invoice_url" Reader.string
    fun value record => { record with hostedInvoiceUrl := value },
  .defaultedOptional "invoice_pdf" Reader.string
    fun value record => { record with invoicePdf := value }]

def reader : Reader Invoice := Reader.record fields {}

def listReader : Reader (List Invoice) :=
  Reader.record [.defaulted "data" (Reader.list reader) fun value _ => value] []

def toJson (invoice : Invoice) : Json :=
  .obj [
    ("id", ofText? invoice.id),
    ("customer", ofText? invoice.customer),
    ("subscription", ofText? invoice.subscription),
    ("status", ofText? invoice.status),
    ("number", ofText? invoice.number),
    ("currency", .str invoice.currency),
    ("amount_due", .int invoice.amountDue),
    ("amount_paid", .int invoice.amountPaid),
    ("amount_remaining", .int invoice.amountRemaining),
    ("subtotal", .int invoice.subtotal),
    ("total", .int invoice.total),
    ("tax", ofOption .int invoice.tax),
    ("period_start", ofOption .int invoice.periodStart),
    ("period_end", ofOption .int invoice.periodEnd),
    ("created", ofOption .int invoice.created),
    ("due_date", ofOption .int invoice.dueDate),
    ("paid", .bool invoice.paid),
    ("hosted_invoice_url", ofText? invoice.hostedInvoiceUrl),
    ("invoice_pdf", ofText? invoice.invoicePdf)]

end Invoice

end UsageBilling.Provider
