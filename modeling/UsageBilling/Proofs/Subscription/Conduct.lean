import UsageBilling.Proofs.Service.Pool
import UsageBilling.Proofs.Subscription.Links
/-!
What each operation may write. It writes a snapshot to the row of a tenant only once it has seen that
the tenant is a customer of the provider, and a plan only with its price. All operations keep to that,
whatever they are answered.
-/
namespace UsageBilling

/-- The row has a link that only a customer of the provider can have. -/
def Subscription.IsLinked (row : Subscription) : Prop := row.customerId.isSome ∨ row.providerId.isSome

def ShowsCustomer : (action : Action) → action.Reply → Uuid → Prop
  | .findByTenant asked, .ok (some row), tenant => asked = tenant ∧ row.IsLinked
  | .insertIfAbsent fresh, .ok row, tenant => fresh.tenant = tenant ∧ row.IsLinked
  | _, _, _ => False

/-- What is allowed to who knows some of the customers, and how more of them become known. -/
def linkRules (catalog : Catalog) : Rules (Uuid → Prop) where
  allows customers
    | .insertIfAbsent row => ∃ id tenant now, row = .freeTier id tenant now
    | .applySnapshot tenant snapshot => customers tenant ∧ snapshot.Priced catalog
    | .syncSnapshot snapshot => snapshot.Priced catalog
    | _ => True
  learn customers action reply tenant := customers tenant ∨ ShowsCustomer action reply tenant

section

variable {α : Type} {catalog : Catalog} {customers : Uuid → Prop}

abbrev Program.KeepsLinks (catalog : Catalog) (program : Program α) (customers : Uuid → Prop) : Prop :=
  program.Obeys (linkRules catalog) customers fun _ _ => True

abbrev Attempt.KeepsLinks (catalog : Catalog) (attempt : Attempt α) (customers : Uuid → Prop) : Prop :=
  attempt.Obeys (linkRules catalog) customers fun _ _ => True

theorem Attempt.KeepsLinks.outcome {attempt : Attempt α} (keeps : attempt.KeepsLinks catalog customers) :
    attempt.outcome.KeepsLinks catalog customers :=
  Program.Obeys.mono keeps fun _ _ _ => trivial

theorem Program.KeepsLinks.withMore {program : Program α} {more : Uuid → Prop}
    (keeps : program.KeepsLinks catalog customers)
    (grows : ∀ tenant, customers tenant → more tenant) : program.KeepsLinks catalog more := by
  induction program generalizing customers more with
  | done result => trivial
  | step action next ih =>
      refine ⟨?_, fun reply => ih reply (keeps.2 reply) fun tenant known => ?_⟩
      · have allowed := keeps.1
        cases action with
        | applySnapshot tenant snapshot => exact ⟨grows tenant allowed.1, allowed.2⟩
        | _ => exact allowed
      · exact known.imp_left (grows tenant)

end

namespace Snapshot

variable {catalog : Catalog}

theorem priced_sold {name : String} {terms : PlanTerms} {priceId : String}
    (sold : catalog.pricedPlan name = .ok (terms, priceId)) (remote : Provider.RemoteSubscription) :
    (ofRemote remote (some (terms.plan, priceId))).Priced catalog := by
  apply priced_ofRemote
  rintro _ _ ⟨⟩
  exact Catalog.priceOf_of_pricedPlan sold

theorem priced_found (catalog : Catalog) (remote : Provider.RemoteSubscription) :
    (ofRemote remote (catalog.planOf remote)).Priced catalog :=
  priced_ofRemote fun _ _ found => Catalog.priceOf_of_planOf found

end Snapshot

namespace Lifecycle

variable {catalog : Catalog} {customers : Uuid → Prop}

theorem obeys_ask {call : Provider.Call} {holds : call.Answer → (Uuid → Prop) → Prop}
    (rest : ∀ answer more, (∀ tenant, customers tenant → more tenant) → holds answer more) :
    (ask call).Obeys (linkRules catalog) customers holds := by
  apply Attempt.obeys_bind
  apply Attempt.obeys_lift trivial
  intro reply
  cases reply with
  | ok answer => exact Attempt.obeys_pure (rest answer _ fun tenant known => .inl known)
  | error error =>
      apply Attempt.obeys_bind
      apply Attempt.obeys_lift trivial
      intro counted
      exact Attempt.obeys_throw

theorem obeys_require {α : Type} {value : Option α} {fault : Fault}
    {holds : α → (Uuid → Prop) → Prop}
    (rest : ∀ present, value = some present → holds present customers) :
    (require value fault).Obeys (linkRules catalog) customers holds := by
  cases value with
  | some present => exact Attempt.obeys_pure (rest present rfl)
  | none => exact Attempt.obeys_throw

theorem obeys_get {tenant : Uuid} {holds : Subscription → (Uuid → Prop) → Prop}
    (rest : ∀ row more, (row.IsLinked → more tenant) → holds row more) :
    (get tenant).Obeys (linkRules catalog) customers holds := by
  apply Attempt.obeys_bind
  apply Attempt.obeys_orFail
  apply Program.obeys_perform trivial
  rintro _ found rfl
  cases found with
  | some row => exact Attempt.obeys_pure (rest row _ fun linked => .inr ⟨rfl, linked⟩)
  | none =>
      apply Attempt.obeys_bind
      apply Attempt.obeys_lift trivial
      intro now
      apply Attempt.obeys_bind
      apply Attempt.obeys_lift trivial
      intro id
      apply Attempt.obeys_bind
      apply Attempt.obeys_orFail
      refine Program.obeys_perform ⟨id, tenant, now, rfl⟩ ?_
      rintro _ row rfl
      apply Attempt.obeys_bind
      apply Attempt.obeys_lift trivial
      intro counted
      exact Attempt.obeys_pure (rest row _ fun linked => .inl (.inr ⟨rfl, linked⟩))

theorem keepsLinks_counted {α : Type} (operation : Operation) (result : α) :
    (do countOperation operation; return result : Attempt α).KeepsLinks catalog customers := by
  apply Attempt.obeys_bind
  apply Attempt.obeys_lift trivial
  intro counted
  exact Attempt.obeys_pure trivial

theorem keepsLinks_write {tenant : Uuid} {snapshot : Snapshot} (operation : Operation)
    (customer : customers tenant) (priced : snapshot.Priced catalog) :
    (do
      let row ← orFail (perform (.applySnapshot tenant snapshot))
      countOperation operation
      return row : Attempt Subscription).KeepsLinks catalog customers := by
  apply Attempt.obeys_bind
  apply Attempt.obeys_orFail
  refine Program.obeys_perform ⟨customer, priced⟩ ?_
  rintro _ row rfl
  exact keepsLinks_counted operation row

section

variable (tenant : Uuid)

theorem keepsLinks_of_get {α : Type} {next : Subscription → Attempt α}
    (rest : ∀ row customers, (next row).KeepsLinks catalog customers) :
    (get tenant >>= next).KeepsLinks catalog customers := by
  apply Attempt.obeys_bind
  apply obeys_get
  intro row known linked
  exact rest row known

theorem keepsLinks_get : (get tenant).KeepsLinks catalog customers :=
  obeys_get fun _ _ _ => trivial

theorem keepsLinks_ask (call : Provider.Call) : (ask call).KeepsLinks catalog customers :=
  obeys_ask fun _ _ _ => trivial

theorem keepsLinks_createCustomer (email name : String) :
    (createCustomer tenant email name).KeepsLinks catalog customers := by
  apply keepsLinks_of_get
  intro row known
  split
  · exact Attempt.obeys_pure trivial
  · apply Attempt.obeys_bind
    apply obeys_ask
    intro customer more grows
    apply Attempt.obeys_bind
    apply Attempt.obeys_orFail
    apply Program.obeys_perform trivial
    rintro _ row rfl
    exact keepsLinks_counted .createCustomer row

theorem keepsLinks_subscribe (planName : String) (paymentMethod : Option String) :
    (subscribe catalog tenant planName paymentMethod).KeepsLinks catalog customers := by
  apply Attempt.obeys_bind
  apply obeys_get
  intro row known linked
  apply Attempt.obeys_bind
  apply obeys_require
  intro customerId present
  apply Attempt.obeys_bind
  apply Attempt.obeys_except
  rintro ⟨terms, priceId⟩ sold
  apply Attempt.obeys_bind
  apply obeys_ask
  intro remote more grows
  have customer : more tenant := grows tenant (linked (.inl (by simp [present])))
  exact keepsLinks_write .subscribe customer (Snapshot.priced_sold sold remote)

theorem keepsLinks_cancel (immediate : Bool) :
    (cancel catalog tenant immediate).KeepsLinks catalog customers := by
  apply Attempt.obeys_bind
  apply obeys_get
  intro row known linked
  split
  · apply Attempt.obeys_bind
    apply Attempt.obeys_orFail
    apply Program.obeys_perform trivial
    rintro _ row rfl
    exact keepsLinks_counted .cancelLocal row
  · next providerId present =>
      apply Attempt.obeys_bind
      apply obeys_ask
      intro remote more grows
      have customer : more tenant := grows tenant (linked (.inr (by simp [present])))
      exact keepsLinks_write _ customer (Snapshot.priced_found catalog remote)

theorem keepsLinks_changePlan (planName : String) :
    (changePlan catalog tenant planName).KeepsLinks catalog customers := by
  apply Attempt.obeys_bind
  apply obeys_get
  intro row known linked
  apply Attempt.obeys_bind
  apply obeys_require
  intro providerId present
  apply Attempt.obeys_bind
  apply Attempt.obeys_except
  rintro ⟨terms, priceId⟩ sold
  apply Attempt.obeys_bind
  apply obeys_ask
  intro current asked fetched
  apply Attempt.obeys_bind
  apply obeys_require
  intro item first
  apply Attempt.obeys_bind
  apply obeys_ask
  intro remote more grows
  have customer : more tenant := grows tenant (fetched tenant (linked (.inr (by simp [present]))))
  exact keepsLinks_write .changePlan customer (Snapshot.priced_sold sold remote)

theorem keepsLinks_portalUrl (returnUrl : String) :
    (portalUrl tenant returnUrl).KeepsLinks catalog customers := by
  apply keepsLinks_of_get
  intro row known
  apply Attempt.obeys_bind
  apply obeys_require
  intro customerId present
  apply Attempt.obeys_bind
  apply obeys_ask
  intro session more grows
  exact Attempt.obeys_pure trivial

theorem keepsLinks_checkoutUrl (planName : String) (email : Option String)
    (successUrl cancelUrl : String) :
    (checkoutUrl catalog tenant planName email successUrl cancelUrl).KeepsLinks catalog customers := by
  apply Attempt.obeys_bind
  apply Attempt.obeys_except
  rintro ⟨terms, priceId⟩ sold
  apply keepsLinks_of_get
  intro row known
  apply Attempt.obeys_bind
  apply obeys_ask
  intro session more grows
  exact keepsLinks_counted .checkout session.url

theorem keepsLinks_upcomingInvoice : (upcomingInvoice tenant).KeepsLinks catalog customers := by
  apply keepsLinks_of_get
  intro row known
  apply Attempt.obeys_bind
  apply obeys_require
  intro customerId present
  exact keepsLinks_ask _

theorem keepsLinks_listInvoices (limit : Nat) :
    (listInvoices tenant limit).KeepsLinks catalog customers := by
  apply keepsLinks_of_get
  intro row known
  split
  · exact Attempt.obeys_pure trivial
  · exact keepsLinks_ask _

theorem keepsLinks_checkUsageLimit (metricName : String) (usage : Int) :
    (checkUsageLimit catalog tenant metricName usage).KeepsLinks catalog customers := by
  unfold checkUsageLimit
  split
  · exact Attempt.obeys_pure trivial
  · apply keepsLinks_of_get
    intro row known
    exact Attempt.obeys_pure trivial

theorem keepsLinks_hasFeature (feature : String) :
    (hasFeature catalog tenant feature).KeepsLinks catalog customers := by
  apply keepsLinks_of_get
  intro row known
  exact Attempt.obeys_pure trivial

end

theorem keepsLinks_sync (providerId : String) :
    (sync catalog providerId).KeepsLinks catalog customers := by
  apply Attempt.obeys_bind
  apply obeys_ask
  intro remote more grows
  apply Attempt.obeys_bind
  apply Attempt.obeys_orFail
  refine Program.obeys_perform (Snapshot.priced_found catalog remote) ?_
  rintro _ outcome rfl
  exact keepsLinks_counted (.sync outcome) outcome

end Lifecycle

theorem Webhook.keepsLinks_dispatch {catalog : Catalog} (event : Event) (customers : Uuid → Prop) :
    Program.KeepsLinks catalog (ExceptT.run (dispatch catalog event)) customers := by
  unfold dispatch
  split
  · next id _ _ =>
      have synced : (Lifecycle.sync catalog id).outcome.KeepsLinks catalog customers :=
        (Lifecycle.keepsLinks_sync id).outcome
      apply Program.obeys_bind
      apply Program.obeys_bind
      refine Program.Obeys.mono synced fun result known _ => ?_
      cases result <;> trivial
  · trivial
  · trivial

theorem Pool.Request.keepsLinks (catalog : Catalog) (request : Pool.Request) (customers : Uuid → Prop) :
    (request.program catalog).KeepsLinks catalog customers := by
  cases request with
  | get tenant => exact (Lifecycle.keepsLinks_get tenant).outcome
  | createCustomer tenant email name =>
      exact (Lifecycle.keepsLinks_createCustomer tenant email name).outcome
  | subscribe tenant planName paymentMethod =>
      exact (Lifecycle.keepsLinks_subscribe tenant planName paymentMethod).outcome
  | changePlan tenant planName => exact (Lifecycle.keepsLinks_changePlan tenant planName).outcome
  | cancel tenant immediate => exact (Lifecycle.keepsLinks_cancel tenant immediate).outcome
  | portalUrl tenant returnUrl => exact (Lifecycle.keepsLinks_portalUrl tenant returnUrl).outcome
  | checkoutUrl tenant planName email successUrl cancelUrl =>
      exact (Lifecycle.keepsLinks_checkoutUrl tenant planName email successUrl cancelUrl).outcome
  | upcomingInvoice tenant => exact (Lifecycle.keepsLinks_upcomingInvoice tenant).outcome
  | listInvoices tenant limit => exact (Lifecycle.keepsLinks_listInvoices tenant limit).outcome
  | checkUsageLimit tenant metricName usage =>
      exact (Lifecycle.keepsLinks_checkUsageLimit tenant metricName usage).outcome
  | hasFeature tenant feature => exact (Lifecycle.keepsLinks_hasFeature tenant feature).outcome
  | sync providerId => exact (Lifecycle.keepsLinks_sync providerId).outcome
  | event received => exact Webhook.keepsLinks_dispatch received customers

end UsageBilling
