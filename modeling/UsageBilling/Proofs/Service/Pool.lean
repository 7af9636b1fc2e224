import UsageBilling.Proofs.Service.Conduct
import UsageBilling.Webhook.Dispatch
/-!
Many requests at once. Each runs the program of its operation, one action at a time, and between two of
its actions the others go on: requests begin and are dropped, the clock is set, and methods of the store
go down and come back. The provider may answer every call differently.
-/
namespace UsageBilling

inductive Pool.Request where
  | get (tenant : Uuid)
  | createCustomer (tenant : Uuid) (email name : String)
  | subscribe (tenant : Uuid) (planName : String) (paymentMethod : Option String)
  | changePlan (tenant : Uuid) (planName : String)
  | cancel (tenant : Uuid) (immediate : Bool)
  | portalUrl (tenant : Uuid) (returnUrl : String)
  | checkoutUrl (tenant : Uuid) (planName : String) (email : Option String)
    (successUrl cancelUrl : String)
  | upcomingInvoice (tenant : Uuid)
  | listInvoices (tenant : Uuid) (limit : Nat)
  | checkUsageLimit (tenant : Uuid) (metricName : String) (usage : Int)
  | hasFeature (tenant : Uuid) (feature : String)
  | sync (providerId : String)
  /-- An event that the provider sent and that has been accepted. -/
  | event (received : Webhook.Event)
  deriving DecidableEq

namespace Pool.Request

abbrev Result : Pool.Request → Type
  | get _ | createCustomer .. | subscribe .. | changePlan .. | cancel .. => Except Fault Subscription
  | portalUrl .. | checkoutUrl .. => Except Fault String
  | upcomingInvoice _ => Except Fault Provider.Invoice
  | listInvoices .. => Except Fault (List Provider.Invoice)
  | checkUsageLimit .. => Except Fault (Bool × Int)
  | hasFeature .. => Except Fault Bool
  | sync _ => Except Fault SyncOutcome
  | event _ => Except Webhook.Error Webhook.Outcome

def program (catalog : Catalog) : (request : Pool.Request) → Program request.Result
  | get tenant => (Lifecycle.get tenant).outcome
  | createCustomer tenant email name => (Lifecycle.createCustomer tenant email name).outcome
  | subscribe tenant planName paymentMethod =>
    (Lifecycle.subscribe catalog tenant planName paymentMethod).outcome
  | changePlan tenant planName => (Lifecycle.changePlan catalog tenant planName).outcome
  | cancel tenant immediate => (Lifecycle.cancel catalog tenant immediate).outcome
  | portalUrl tenant returnUrl => (Lifecycle.portalUrl tenant returnUrl).outcome
  | checkoutUrl tenant planName email successUrl cancelUrl =>
    (Lifecycle.checkoutUrl catalog tenant planName email successUrl cancelUrl).outcome
  | upcomingInvoice tenant => (Lifecycle.upcomingInvoice tenant).outcome
  | listInvoices tenant limit => (Lifecycle.listInvoices tenant limit).outcome
  | checkUsageLimit tenant metricName usage =>
    (Lifecycle.checkUsageLimit catalog tenant metricName usage).outcome
  | hasFeature tenant feature => (Lifecycle.hasFeature catalog tenant feature).outcome
  | sync providerId => (Lifecycle.sync catalog providerId).outcome
  | event received => ExceptT.run (Webhook.dispatch catalog received)

end Pool.Request

/-- A request that has begun, and what is left of its program. -/
structure Running where
  request : Pool.Request
  left : Program request.Result

structure Pool where
  service : Service
  running : List Running := []

namespace Pool

inductive Step where
  | begin (request : Request)
  /-- The request at this place carries out its next action, or returns. -/
  | proceed (place : Nat) (answers : Provider.Answers)
  /-- The request at this place is dropped. -/
  | drop (place : Nat)
  | clock (now : Instant)
  | switch (method : Store.Method) (down : Bool)

def advance (pool : Pool) (place : Nat) (answers : Provider.Answers) (running : Running) : Pool :=
  match running.left with
  | .done _ => { pool with running := pool.running.eraseIdx place }
  | .step action next =>
    let (reply, service) := pool.service.act answers action
    { service, running := pool.running.set place ⟨running.request, next reply⟩ }

def step (catalog : Catalog) (pool : Pool) : Step → Pool
  | .begin request =>
    { pool with running := pool.running ++ [⟨request, request.program catalog⟩] }
  | .proceed place answers =>
    match pool.running[place]? with
    | some running => pool.advance place answers running
    | none => pool
  | .drop place => { pool with running := pool.running.eraseIdx place }
  | .clock now => { pool with service := { pool.service with clock := now } }
  | .switch method down =>
    { pool with service := { pool.service with store := pool.service.store.setOutage method down } }

def run (catalog : Catalog) (pool : Pool) (steps : List Step) : Pool := steps.foldl (step catalog) pool

def started (clock : Instant) : Pool := { service := { clock } }

end Pool

end UsageBilling
