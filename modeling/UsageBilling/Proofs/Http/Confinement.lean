import UsageBilling.Http.Handlers
import UsageBilling.Proofs.Service.Programs
import UsageBilling.Proofs.Subscription.Operations
/-!
A request about one tenant reads and writes nothing of another one. All its actions are for its tenant,
whatever they are answered, but for those that are for nobody in particular: the clock, fresh ids, calls
to the provider, counters, and flushes, which are for all.
-/
namespace UsageBilling

/-- The action is for the tenant, or for nobody in particular. -/
def Action.IsFor (tenant : Uuid) : Action → Prop
  | .now | .newId | .ask _ | .count _ | .flush => True
  | .findByTenant asked | .setProviderCustomer asked _ | .applySnapshot asked _ | .markCanceled asked
  | .periodUsage asked _ _ => asked = tenant
  | .insertIfAbsent row => row.tenant = tenant
  | .pending key | .track key _ => key.tenant = tenant
  | _ => False

abbrev Program.ConfinedTo {α : Type} (tenant : Uuid) (program : Program α) : Prop :=
  program.Within (Action.IsFor tenant)

abbrev Attempt.ConfinedTo {α : Type} (tenant : Uuid) (attempt : Attempt α) : Prop :=
  attempt.outcome.ConfinedTo tenant

theorem Program.Obeys.within {α Knowledge : Type} {rules : Rules Knowledge} {program : Program α}
    {known : Knowledge} {holds : α → Knowledge → Prop} {allowed : Action → Prop}
    (obeys : program.Obeys rules known holds)
    (permits : ∀ known action, rules.allows known action → allowed action) : program.Within allowed := by
  induction program generalizing known with
  | done result => trivial
  | step action next ih => exact ⟨permits known action obeys.1, fun reply => ih reply (obeys.2 reply)⟩

section

variable {α β : Type} {tenant : Uuid}

theorem Lifecycle.Conducts.confined {attempt : Attempt α} {trace : List Performed}
    (conducts : Conducts (some tenant) attempt trace) : attempt.ConfinedTo tenant := by
  refine Program.Obeys.within conducts fun trace action allowed => ?_
  cases action with
  | insertIfAbsent row =>
      obtain ⟨id, own, now, same, rfl, _⟩ := allowed
      exact (Option.some.inj same).symm
  | findByTenant asked => exact (Option.some.inj allowed).symm
  | setProviderCustomer asked customerId => exact (Option.some.inj allowed).symm
  | markCanceled asked => exact (Option.some.inj allowed).symm
  | applySnapshot asked snapshot => exact (Option.some.inj allowed.1).symm
  | now | newId | ask _ | count _ => trivial
  | syncSnapshot snapshot => cases allowed
  | _ => exact allowed.elim

theorem LimitCheck.confined_usage (tenant : Uuid) (metric : Metric) :
    (usage tenant metric).ConfinedTo tenant := by
  apply Attempt.within_lift
  · exact Program.within_perform rfl
  intro pending
  apply Attempt.within_lift
  · exact Program.within_perform trivial
  intro now
  apply Attempt.within_bind
  · exact Program.within_perform rfl
  intro stored
  exact Attempt.within_pure _

theorem LimitCheck.confined_check (catalog : Catalog) (tenant : Uuid) (metricName : String) :
    (check catalog tenant metricName).ConfinedTo tenant := by
  unfold check
  split
  · exact Attempt.within_pure _
  · apply Attempt.within_bind (confined_usage tenant _)
    intro current
    apply Attempt.within_bind
      (Lifecycle.conducts_checkUsageLimit catalog tenant metricName current).confined
    rintro ⟨exceeded, limit⟩
    cases exceeded with
    | true =>
        apply Attempt.within_lift
        · exact Program.within_perform trivial
        · exact fun counted => Attempt.within_pure _
    | false => exact Attempt.within_pure _

theorem Attempt.within_mapM {allowed : Action → Prop} {values : List α} {read : α → Attempt β}
    (each : ∀ value ∈ values, (read value).outcome.Within allowed) :
    (values.mapM read).outcome.Within allowed := by
  have loop : ∀ (values : List α) (done : List β),
      (∀ value ∈ values, (read value).outcome.Within allowed) →
        (List.mapM.loop read values done).outcome.Within allowed := by
    intro values
    induction values with
    | nil => exact fun done each => Attempt.within_pure _
    | cons value values ih =>
        intro done each
        apply Attempt.within_bind (each value List.mem_cons_self)
        intro result
        exact ih _ fun other member => each other (List.mem_cons_of_mem value member)
  exact loop values [] each

theorem UsageTotals.confined_gather (tenant : Uuid) (now : Instant) (metrics : List Metric)
    (totals : UsageTotals) : (gather tenant now metrics totals).ConfinedTo tenant := by
  induction metrics generalizing totals with
  | nil => exact Attempt.within_pure _
  | cons metric metrics ih =>
      apply Attempt.within_bind
      · exact Program.within_perform rfl
      · exact fun used => ih _

theorem UsageTotals.confined_current (tenant : Uuid) : (current tenant).ConfinedTo tenant := by
  apply Attempt.within_bind
  · exact Program.within_perform trivial
  intro report
  apply Attempt.within_lift
  · exact Program.within_perform trivial
  intro now
  apply Attempt.within_lift
  · apply Program.within_bind
    · exact Program.within_perform rfl
    · rintro (fault | row) <;> trivial
  · intro period
    exact confined_gather tenant now _ _

end

namespace Http

variable {α : Type} {tenant : Uuid}

theorem confined_answering {attempt : Attempt α} {write : α → Answer}
    (confined : attempt.ConfinedTo tenant) : (answering attempt write).ConfinedTo tenant := by
  apply Program.within_bind confined
  rintro (fault | result) <;> trivial

theorem confined_withRead {read : Except Rejection α} {next : α → Program Answer}
    (confined : ∀ value, (next value).ConfinedTo tenant) : (withRead read next).ConfinedTo tenant := by
  cases read with
  | ok value => exact confined value
  | error rejection => trivial

theorem confined_trackUsage (tenant : Uuid) (body : UsageBody) :
    (trackUsage tenant body).ConfinedTo tenant := by
  unfold trackUsage
  split
  · exact Attempt.within_throw _
  · apply Attempt.within_lift
    · exact Program.within_perform rfl
    rintro (error | ⟨⟩)
    · exact Attempt.within_throw _
    · apply Attempt.within_lift
      · exact Program.within_perform rfl
      · exact fun pending => Attempt.within_pure _

theorem confined_usageOverview (site : Site) (tenant : Uuid) :
    (usageOverview site tenant).ConfinedTo tenant := by
  apply Attempt.within_bind (UsageTotals.confined_current tenant)
  intro usage
  apply Attempt.within_bind
  · exact Attempt.within_mapM fun metric _ => LimitCheck.confined_check site.catalog tenant metric.name
  · intro limits
    exact Attempt.within_pure _

theorem confined_createCustomer (tenant : Uuid) (body : CustomerBody) :
    (createCustomer tenant body).ConfinedTo tenant := by
  unfold createCustomer
  split
  · exact Attempt.within_throw _
  · exact (Lifecycle.conducts_createCustomer tenant body.email body.name).confined

theorem confined_checkout (site : Site) (tenant : Uuid) (body : CheckoutBody) :
    (checkout site tenant body).ConfinedTo tenant := by
  unfold checkout
  split
  · exact Attempt.within_throw _
  · exact (Lifecycle.conducts_checkoutUrl site.catalog tenant body.plan body.email body.successUrl
      body.cancelUrl).confined

theorem confined_ofTenant (site : Site) (tenant : Uuid) (posted : Bool) (request : Request)
    (resource : TenantResource) : (ofTenant site tenant posted request resource).ConfinedTo tenant := by
  have row : ∀ {attempt : Attempt Subscription} (status : Nat), attempt.ConfinedTo tenant →
      (answering attempt (ofTenant.rowAnswer site status)).ConfinedTo tenant :=
    fun status confined => confined_answering confined
  cases resource with
  | usage =>
      rw [ofTenant]
      split
      · exact confined_withRead fun body => confined_answering (confined_trackUsage tenant body)
      · exact confined_answering (confined_usageOverview site tenant)
  | limit metric =>
      rw [ofTenant]
      split
      · exact confined_answering (LimitCheck.confined_check site.catalog tenant _)
      · trivial
  | subscription =>
      rw [ofTenant]
      split
      · exact confined_withRead fun body => row 200
          (Lifecycle.conducts_subscribe site.catalog tenant body.plan body.paymentMethod).confined
      · exact row 200 (Lifecycle.conducts_get tenant).confined
  | cancellation =>
      rw [ofTenant]
      exact row 200 (Lifecycle.conducts_cancel site.catalog tenant _).confined
  | plan =>
      rw [ofTenant]
      exact confined_withRead fun plan => row 200
        (Lifecycle.conducts_changePlan site.catalog tenant plan).confined
  | customer =>
      rw [ofTenant]
      exact confined_withRead fun body => row 201 (confined_createCustomer tenant body)
  | portal =>
      rw [ofTenant]
      exact confined_withRead fun returnUrl =>
        confined_answering (Lifecycle.conducts_portalUrl tenant returnUrl).confined
  | checkout =>
      rw [ofTenant]
      exact confined_withRead fun body => confined_answering (confined_checkout site tenant body)
  | invoices =>
      rw [ofTenant]
      -- Whatever was read of the query, so that nothing of it is computed here.
      generalize readNumber request "limit" usualInvoices = read
      exact confined_withRead fun limit =>
        confined_answering (Lifecycle.conducts_listInvoices tenant limit).confined
  | upcomingInvoice =>
      rw [ofTenant]
      exact confined_answering (Lifecycle.conducts_upcomingInvoice tenant).confined

def IsAbout (request : Request) (tenant : Uuid) : Prop :=
  ∃ part resource, Resource.ofPath? request.path = some (.ofTenant part resource) ∧
    (decodePart? part).bind Uuid.parse? = some tenant

theorem confined_requestId (request : Request) : (requestId request).ConfinedTo tenant := by
  unfold requestId
  split
  · trivial
  · apply Program.within_bind
    · exact Program.within_perform trivial
    · exact fun id => trivial

theorem confined_answer (site : Site) {request : Request} (about : IsAbout request tenant) :
    (answer site request).ConfinedTo tenant := by
  obtain ⟨part, resource, path, names⟩ := about
  unfold answer
  rw [path]
  dsimp only
  split
  · simp only [serve, names]
    exact confined_ofTenant site tenant _ request resource
  · trivial

theorem confined_respond (site : Site) {request : Request} (about : IsAbout request tenant) :
    (respond site request).ConfinedTo tenant := by
  unfold respond
  apply Program.within_bind (confined_requestId request)
  intro id
  apply Program.within_bind (confined_answer site about)
  intro answered
  trivial

end Http

end UsageBilling
