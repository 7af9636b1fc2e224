import UsageBilling.Proofs.Service.Pool
/-!
What an operation does of its own accord, judged by its own trace: the actions that it has carried out
and what they were answered with. It reads and writes the row of its tenant only. A snapshot that it
writes to that row is of a subscription that it has created for the tenant, or that it has asked the
provider to change or to cancel because it had seen the row linked to it. If it fails it has written
nothing; and if it fails for what was missing beforehand, it has not asked the provider. All of this
holds whatever the replies are.
-/
namespace UsageBilling

/-- The fault is about what must be there, or be asked for, beforehand. -/
def Fault.IsPrecondition : Fault → Prop
  | .conflict _ | .badRequest _ => True
  | _ => False

namespace Performed

def Writes : Performed → Prop
  | ⟨.setProviderCustomer .., .ok _⟩ | ⟨.applySnapshot .., .ok _⟩ | ⟨.syncSnapshot _, .ok _⟩
  | ⟨.markCanceled _, .ok _⟩ => True
  | _ => False

def Refuses (fault : Fault) : Performed → Prop
  | ⟨.setProviderCustomer .., reply⟩ | ⟨.applySnapshot .., reply⟩ | ⟨.syncSnapshot _, reply⟩
  | ⟨.markCanceled _, reply⟩ => reply = .error fault
  | _ => False

def Asks : Performed → Prop
  | ⟨.ask _, _⟩ => True
  | _ => False

def Shows (tenant : Uuid) (shown : Subscription) : Performed → Prop
  | ⟨.findByTenant asked, .ok (some row)⟩ => asked = tenant ∧ row = shown
  | ⟨.insertIfAbsent fresh, .ok row⟩ => fresh.tenant = tenant ∧ row = shown
  | _ => False

end Performed

def ShownLinked (trace : List Performed) (tenant : Uuid) (providerId : String) : Prop :=
  ∃ row, row.providerId = some providerId ∧ ∃ performed ∈ trace, performed.Shows tenant row

/-- Why a subscription of the provider may be written to the row of the tenant. -/
inductive Told (trace : List Performed) (tenant : Uuid) : String → Prop
  | created {request : Provider.NewSubscription} {remote : Provider.RemoteSubscription}
      (answered : ⟨.ask (.createSubscription request), .ok remote⟩ ∈ trace) :
      Told trace tenant remote.id
  | changed {providerId : String} {update : Provider.SubscriptionUpdate}
      {remote : Provider.RemoteSubscription} (linked : ShownLinked trace tenant providerId)
      (answered : ⟨.ask (.updateSubscription providerId update), .ok remote⟩ ∈ trace) :
      Told trace tenant remote.id
  | canceled {providerId : String} {atPeriodEnd : Bool} {remote : Provider.RemoteSubscription}
      (linked : ShownLinked trace tenant providerId)
      (answered : ⟨.ask (.cancelSubscription providerId atPeriodEnd), .ok remote⟩ ∈ trace) :
      Told trace tenant remote.id

/-- What an operation for this tenant is allowed, or one that is for no tenant. -/
def operationRules (who : Option Uuid) : Rules (List Performed) where
  allows trace
    | .now | .newId | .count _ | .ask _ => True
    | .findByTenant tenant | .setProviderCustomer tenant _ | .markCanceled tenant => who = some tenant
    | .insertIfAbsent row => ∃ id tenant now,
      who = some tenant ∧ row = .freeTier id tenant now ∧ ⟨.now, now⟩ ∈ trace
    | .applySnapshot tenant snapshot => who = some tenant ∧ Told trace tenant snapshot.providerId
    | .syncSnapshot _ => who = none
    | _ => False
  learn trace action reply := trace ++ [⟨action, reply⟩]

def Unwritten (trace : List Performed) : Prop := ∀ performed ∈ trace, ¬ performed.Writes

structure Idle (trace : List Performed) : Prop where
  unwritten : Unwritten trace
  unasked : ∀ performed ∈ trace, ¬ performed.Asks

/-- What an operation that ends with this fault has left alone. -/
structure Spares (fault : Fault) (trace : List Performed) : Prop where
  unwritten : Unwritten trace
  precondition : fault.IsPrecondition → Idle trace ∨ ∃ performed ∈ trace, performed.Refuses fault

section

variable {trace : List Performed} {performed : Performed} {fault : Fault}

theorem idle_nil : Idle [] := by constructor <;> simp [Unwritten]

theorem Unwritten.concat (unwritten : Unwritten trace) (more : ¬ performed.Writes) :
    Unwritten (trace ++ [performed]) :=
  List.forall_mem_append.mpr ⟨unwritten, List.forall_mem_singleton.mpr more⟩

theorem Idle.concat (idle : Idle trace) (performed : Performed) (unwritten : ¬ performed.Writes)
    (unasked : ¬ performed.Asks) : Idle (trace ++ [performed]) :=
  ⟨idle.unwritten.concat unwritten,
    List.forall_mem_append.mpr ⟨idle.unasked, List.forall_mem_singleton.mpr unasked⟩⟩

theorem Idle.spares (idle : Idle trace) : Spares fault trace := ⟨idle.unwritten, fun _ => .inl idle⟩

theorem Unwritten.spares (unwritten : Unwritten trace) (other : ¬ fault.IsPrecondition) :
    Spares fault trace := ⟨unwritten, fun precondition => absurd precondition other⟩

theorem Unwritten.spares_refused (unwritten : Unwritten trace) (more : ¬ performed.Writes)
    (refuses : performed.Refuses fault) : Spares fault (trace ++ [performed]) :=
  ⟨unwritten.concat more, fun _ => .inr ⟨performed, by simp, refuses⟩⟩

theorem ShownLinked.concat {tenant : Uuid} {providerId : String}
    (linked : ShownLinked trace tenant providerId) (performed : Performed) :
    ShownLinked (trace ++ [performed]) tenant providerId := by
  obtain ⟨row, own, other, member, shows⟩ := linked
  exact ⟨row, own, other, List.mem_append_left _ member, shows⟩

end

theorem Provider.Error.not_isPrecondition (error : Provider.Error) : ¬ error.toFault.IsPrecondition := by
  cases error <;> exact id

namespace Lifecycle

variable {α : Type} {who : Option Uuid} {tenant : Uuid} {trace : List Performed}

/-- What an operation comes to: it keeps to the rules, and leaves alone what it should when it fails. -/
abbrev Conducts (who : Option Uuid) (attempt : Attempt α) (trace : List Performed) : Prop :=
  attempt.Ends (operationRules who) trace (fun _ _ => True) Spares

theorem ends_ask {call : Provider.Call} {returns : call.Answer → List Performed → Prop}
    (unwritten : Unwritten trace)
    (rest : ∀ answer, returns answer (trace ++ [⟨.ask call, .ok answer⟩])) :
    (ask call).Ends (operationRules who) trace returns Spares := by
  apply Attempt.ends_bind
  apply Attempt.ends_lift trivial
  intro reply
  cases reply with
  | ok answer => exact Attempt.ends_pure (rest answer)
  | error error =>
      apply Attempt.ends_bind
      apply Attempt.ends_lift trivial
      intro counted
      have still : Unwritten (trace ++ [⟨.ask call, .error error⟩] ++ [⟨.count _, counted⟩]) :=
        (unwritten.concat id).concat id
      exact Attempt.ends_throw (still.spares error.not_isPrecondition)

theorem ends_require {value : Option α} {fault : Fault} {returns : α → List Performed → Prop}
    (spares : Spares fault trace) (rest : ∀ present, value = some present → returns present trace) :
    (require value fault).Ends (operationRules who) trace returns Spares := by
  cases value with
  | some present => exact Attempt.ends_pure (rest present rfl)
  | none => exact Attempt.ends_throw spares

theorem ends_pricedPlan {catalog : Catalog} {planName : String}
    {returns : PlanTerms × String → List Performed → Prop} (idle : Idle trace)
    (rest : ∀ sold, returns sold trace) :
    (liftM (catalog.pricedPlan planName) : Attempt (PlanTerms × String)).Ends (operationRules who) trace
      returns Spares :=
  Attempt.ends_except (fun sold _ => rest sold) fun _ _ => idle.spares

theorem ends_get {returns : Subscription → List Performed → Prop} (idle : Idle trace)
    (rest : ∀ row trace, Idle trace → (∃ performed ∈ trace, performed.Shows tenant row) →
      returns row trace) :
    (get tenant).Ends (operationRules (some tenant)) trace returns Spares := by
  apply Attempt.ends_bind
  refine ⟨rfl, fun reply => ?_⟩
  have found : Idle (trace ++ [⟨.findByTenant tenant, reply⟩]) := idle.concat _ id id
  rcases reply with fault | _ | row
  · exact found.spares
  · apply Attempt.ends_bind
    apply Attempt.ends_lift trivial
    intro now
    apply Attempt.ends_bind
    apply Attempt.ends_lift trivial
    intro id
    apply Attempt.ends_bind
    refine ⟨⟨id, tenant, now, rfl, rfl, by simp [operationRules]⟩, fun reply => ?_⟩
    have inserted := ((found.concat ⟨.now, now⟩ not_false not_false).concat ⟨.newId, id⟩ not_false
      not_false).concat ⟨.insertIfAbsent (.freeTier id tenant now), reply⟩ not_false not_false
    cases reply with
    | error fault => exact inserted.spares
    | ok row =>
        apply Attempt.ends_bind
        apply Attempt.ends_lift trivial
        intro counted
        refine Attempt.ends_pure (rest row _ (inserted.concat _ not_false not_false) ?_)
        exact ⟨⟨.insertIfAbsent (.freeTier id tenant now), .ok row⟩, by simp [operationRules], rfl, rfl⟩
  · refine Attempt.ends_pure (rest row _ found ?_)
    exact ⟨⟨.findByTenant tenant, .ok (some row)⟩, by simp [operationRules], rfl, rfl⟩

theorem conducts_counted (operation : Operation) (result : α) :
    Conducts who (do countOperation operation; return result) trace := by
  apply Attempt.ends_bind
  apply Attempt.ends_lift trivial
  intro counted
  exact Attempt.ends_pure trivial

theorem conducts_snapshot {snapshot : Snapshot} (operation : Operation) (unwritten : Unwritten trace)
    (told : Told trace tenant snapshot.providerId) :
    Conducts (some tenant) (do
      let row ← orFail (perform (.applySnapshot tenant snapshot))
      countOperation operation
      return row) trace := by
  apply Attempt.ends_bind
  refine ⟨⟨rfl, told⟩, fun reply => ?_⟩
  cases reply with
  | error fault => exact unwritten.spares_refused id rfl
  | ok row => exact conducts_counted operation row

section

variable (catalog : Catalog) (tenant : Uuid)

theorem conducts_of_get {next : Subscription → Attempt α} (idle : Idle trace)
    (rest : ∀ row trace, Idle trace → (∃ performed ∈ trace, performed.Shows tenant row) →
      Conducts (some tenant) (next row) trace) :
    Conducts (some tenant) (get tenant >>= next) trace :=
  Attempt.ends_bind (ends_get idle rest)

theorem conducts_get : Conducts (some tenant) (get tenant) [] :=
  ends_get idle_nil fun _ _ _ _ => trivial

theorem conducts_createCustomer (email name : String) :
    Conducts (some tenant) (createCustomer tenant email name) [] := by
  apply conducts_of_get tenant idle_nil
  intro row trace idle shown
  split
  · exact Attempt.ends_pure trivial
  · apply Attempt.ends_bind
    apply ends_ask idle.unwritten
    intro customer
    have unwritten : Unwritten
        (trace ++ [⟨.ask (.createCustomer ⟨tenant, email, name⟩), .ok customer⟩]) :=
      idle.unwritten.concat id
    apply Attempt.ends_bind
    refine ⟨rfl, fun reply => ?_⟩
    cases reply with
    | error fault => exact unwritten.spares_refused id rfl
    | ok linked => exact conducts_counted .createCustomer linked

theorem conducts_subscribe (planName : String) (paymentMethod : Option String) :
    Conducts (some tenant) (subscribe catalog tenant planName paymentMethod) [] := by
  apply conducts_of_get tenant idle_nil
  intro row trace idle shown
  apply Attempt.ends_bind
  apply ends_require idle.spares
  intro customerId present
  apply Attempt.ends_bind
  apply ends_pricedPlan idle
  rintro ⟨terms, priceId⟩
  apply Attempt.ends_bind
  apply ends_ask idle.unwritten
  intro remote
  exact conducts_snapshot .subscribe (idle.unwritten.concat id) (.created List.mem_concat_self)

theorem conducts_cancel (immediate : Bool) :
    Conducts (some tenant) (cancel catalog tenant immediate) [] := by
  apply conducts_of_get tenant idle_nil
  intro row trace idle shown
  split
  · apply Attempt.ends_bind
    refine ⟨rfl, fun reply => ?_⟩
    cases reply with
    | error fault => exact idle.unwritten.spares_refused id rfl
    | ok canceled => exact conducts_counted .cancelLocal canceled
  · next providerId present =>
      have linked : ShownLinked trace tenant providerId := ⟨row, present, shown⟩
      apply Attempt.ends_bind
      apply ends_ask idle.unwritten
      intro remote
      exact conducts_snapshot _ (idle.unwritten.concat id)
        (.canceled (linked.concat _) List.mem_concat_self)

theorem conducts_changePlan (planName : String) :
    Conducts (some tenant) (changePlan catalog tenant planName) [] := by
  apply conducts_of_get tenant idle_nil
  intro row trace idle shown
  apply Attempt.ends_bind
  apply ends_require idle.spares
  intro providerId present
  have linked : ShownLinked trace tenant providerId := ⟨row, present, shown⟩
  apply Attempt.ends_bind
  apply ends_pricedPlan idle
  rintro ⟨terms, priceId⟩
  apply Attempt.ends_bind
  apply ends_ask idle.unwritten
  intro current
  have fetched : Unwritten (trace ++ [⟨.ask (.getSubscription providerId), .ok current⟩]) :=
    idle.unwritten.concat id
  apply Attempt.ends_bind
  apply ends_require (fetched.spares id)
  intro item first
  apply Attempt.ends_bind
  apply ends_ask fetched
  intro remote
  exact conducts_snapshot .changePlan (fetched.concat id)
    (.changed ((linked.concat _).concat _) List.mem_concat_self)

theorem conducts_portalUrl (returnUrl : String) :
    Conducts (some tenant) (portalUrl tenant returnUrl) [] := by
  apply conducts_of_get tenant idle_nil
  intro row trace idle shown
  apply Attempt.ends_bind
  apply ends_require idle.spares
  intro customerId present
  apply Attempt.ends_bind
  apply ends_ask idle.unwritten
  intro session
  exact Attempt.ends_pure trivial

theorem conducts_checkoutUrl (planName : String) (email : Option String)
    (successUrl cancelUrl : String) :
    Conducts (some tenant) (checkoutUrl catalog tenant planName email successUrl cancelUrl) [] := by
  apply Attempt.ends_bind
  apply ends_pricedPlan idle_nil
  rintro ⟨terms, priceId⟩
  apply conducts_of_get tenant idle_nil
  intro row trace idle shown
  apply Attempt.ends_bind
  apply ends_ask idle.unwritten
  intro session
  exact conducts_counted .checkout session.url

theorem conducts_upcomingInvoice : Conducts (some tenant) (upcomingInvoice tenant) [] := by
  apply conducts_of_get tenant idle_nil
  intro row trace idle shown
  apply Attempt.ends_bind
  apply ends_require idle.spares
  intro customerId present
  exact ends_ask idle.unwritten fun _ => trivial

theorem conducts_listInvoices (limit : Nat) :
    Conducts (some tenant) (listInvoices tenant limit) [] := by
  apply conducts_of_get tenant idle_nil
  intro row trace idle shown
  split
  · exact Attempt.ends_pure trivial
  · exact ends_ask idle.unwritten fun _ => trivial

theorem conducts_checkUsageLimit (metricName : String) (usage : Int) :
    Conducts (some tenant) (checkUsageLimit catalog tenant metricName usage) [] := by
  unfold checkUsageLimit
  split
  · exact Attempt.ends_pure trivial
  · exact conducts_of_get tenant idle_nil fun _ _ _ _ => Attempt.ends_pure trivial

theorem conducts_hasFeature (feature : String) :
    Conducts (some tenant) (hasFeature catalog tenant feature) [] :=
  conducts_of_get tenant idle_nil fun _ _ _ _ => Attempt.ends_pure trivial

theorem conducts_sync (providerId : String) : Conducts none (sync catalog providerId) [] := by
  apply Attempt.ends_bind
  apply ends_ask idle_nil.unwritten
  intro remote
  have unwritten : Unwritten ([] ++ [⟨.ask (.getSubscription providerId), .ok remote⟩]) :=
    idle_nil.unwritten.concat id
  apply Attempt.ends_bind
  refine ⟨rfl, fun reply => ?_⟩
  cases reply with
  | error fault => exact unwritten.spares_refused id rfl
  | ok outcome => exact conducts_counted (.sync outcome) outcome

end

end Lifecycle

def faultOf? {α : Type} : Except Fault α → Option Fault
  | .error fault => some fault
  | .ok _ => none

namespace Pool.Request

/-- The tenant that a request is for. Events and synchronisations are for no tenant. -/
def tenant? : Pool.Request → Option Uuid
  | get tenant | createCustomer tenant _ _ | subscribe tenant _ _ | changePlan tenant _
  | cancel tenant _ | portalUrl tenant _ | checkoutUrl tenant _ _ _ _ | upcomingInvoice tenant
  | listInvoices tenant _ | checkUsageLimit tenant _ _ | hasFeature tenant _ => some tenant
  | sync _ | event _ => none

def fault? : (request : Pool.Request) → request.Result → Option Fault
  | get _ | createCustomer .. | subscribe .. | changePlan .. | cancel .. | portalUrl .. | checkoutUrl ..
  | upcomingInvoice _ | listInvoices .. | checkUsageLimit .. | hasFeature .. | sync _ => faultOf?
  | event _ => fun
    | .error (.handling _ _ fault) => some fault
    | _ => none

end Pool.Request

theorem Lifecycle.Conducts.outcome {α : Type} {who : Option Uuid} {attempt : Attempt α}
    (conducts : Conducts who attempt []) : attempt.outcome.Obeys (operationRules who) []
      fun result trace => ∀ fault, faultOf? result = some fault → Spares fault trace := by
  refine Program.Obeys.mono conducts fun result trace ends fault failed => ?_
  cases result with
  | ok value => cases failed
  | error other =>
      obtain rfl : other = fault := Option.some.inj failed
      exact ends

theorem Webhook.conducts_dispatch (catalog : Catalog) (received : Event) :
    Program.Obeys (operationRules none) (ExceptT.run (dispatch catalog received)) []
      fun result trace => ∀ fault, Pool.Request.fault? (.event received) result = some fault →
        Spares fault trace := by
  unfold dispatch
  split
  · next id _ _ =>
      have synced := (Lifecycle.conducts_sync catalog id).outcome
      apply Program.obeys_bind
      apply Program.obeys_bind
      refine Program.Obeys.mono synced fun result trace spares => ?_
      cases result with
      | ok outcome => exact fun fault failed => nomatch failed
      | error fault => exact spares
  · exact fun fault failed => nomatch failed
  · exact fun fault failed => nomatch failed

theorem Pool.Request.conducts (catalog : Catalog) (request : Pool.Request) :
    (request.program catalog).Obeys (operationRules request.tenant?) []
      fun result trace => ∀ fault, request.fault? result = some fault → Spares fault trace := by
  cases request with
  | get tenant => exact (Lifecycle.conducts_get tenant).outcome
  | createCustomer tenant email name =>
      exact (Lifecycle.conducts_createCustomer tenant email name).outcome
  | subscribe tenant planName paymentMethod =>
      exact (Lifecycle.conducts_subscribe catalog tenant planName paymentMethod).outcome
  | changePlan tenant planName => exact (Lifecycle.conducts_changePlan catalog tenant planName).outcome
  | cancel tenant immediate => exact (Lifecycle.conducts_cancel catalog tenant immediate).outcome
  | portalUrl tenant returnUrl => exact (Lifecycle.conducts_portalUrl tenant returnUrl).outcome
  | checkoutUrl tenant planName email successUrl cancelUrl =>
      exact (Lifecycle.conducts_checkoutUrl catalog tenant planName email successUrl cancelUrl).outcome
  | upcomingInvoice tenant => exact (Lifecycle.conducts_upcomingInvoice tenant).outcome
  | listInvoices tenant limit => exact (Lifecycle.conducts_listInvoices tenant limit).outcome
  | checkUsageLimit tenant metricName usage =>
      exact (Lifecycle.conducts_checkUsageLimit catalog tenant metricName usage).outcome
  | hasFeature tenant feature => exact (Lifecycle.conducts_hasFeature catalog tenant feature).outcome
  | sync providerId => exact (Lifecycle.conducts_sync catalog providerId).outcome
  | event received => exact Webhook.conducts_dispatch catalog received

end UsageBilling
