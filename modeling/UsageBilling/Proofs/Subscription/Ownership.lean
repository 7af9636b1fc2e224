import UsageBilling.Proofs.Store.Syncing
import UsageBilling.Proofs.Subscription.Operations
/-!
No subscription of the provider is linked to two tenants, however requests interleave. A subscription
belongs to the tenant for which it was created. The invariant: what a row is linked to belongs to the
tenant of the row, and so does what a request has seen its tenant linked to. An old answer that is
written late brings back an older link of the same tenant, never one of another tenant.
-/
namespace UsageBilling

namespace Performed

def created? : Performed → Option String
  | ⟨.ask (.createSubscription _), .ok remote⟩ => some remote.id
  | _ => none

def isFaithful : Performed → Bool
  | ⟨.ask (.getSubscription id), .ok remote⟩ | ⟨.ask (.updateSubscription id _), .ok remote⟩
  | ⟨.ask (.cancelSubscription id _), .ok remote⟩ => remote.id = id
  | _ => true

end Performed

/-- The provider never creates a subscription under an id that it has used before, and answers about
the subscription that it is asked about. -/
structure Provider.Honest (trace : List Performed) : Prop where
  createdOnce : (trace.filterMap Performed.created?).Nodup
  faithful : ∀ performed ∈ trace, performed.isFaithful

namespace Pool

def performed (pool : Pool) : Step → Option (Request × Performed)
  | .proceed place answers => do
    let running ← pool.running[place]?
    match running.left with
    | .done _ => none
    | .step action _ => some (running.request, ⟨action, (pool.service.act answers action).1⟩)
  | _ => none

def history (catalog : Catalog) : Pool → List Step → List (Request × Performed)
  | _, [] => []
  | pool, step :: steps => (pool.performed step).toList ++ history catalog (pool.step catalog step) steps

end Pool

abbrev traceOf (history : List (Pool.Request × Performed)) : List Performed := history.map Prod.snd

def Owns (history : List (Pool.Request × Performed)) (tenant : Uuid) (providerId : String) : Prop :=
  ∃ request performed, (request, performed) ∈ history ∧ request.tenant? = some tenant ∧
    performed.created? = some providerId

section

variable {past history : List (Pool.Request × Performed)} {tenant other : Uuid} {providerId : String}

theorem Owns.append (owns : Owns past tenant providerId) (more : List (Pool.Request × Performed)) :
    Owns (past ++ more) tenant providerId := by
  obtain ⟨request, performed, member, own, created⟩ := owns
  exact ⟨request, performed, List.mem_append_left _ member, own, created⟩

theorem Owns.unique (honest : Provider.Honest (traceOf history)) (owns : Owns history tenant providerId)
    (also : Owns history other providerId) : tenant = other := by
  obtain ⟨request, performed, member, own, created⟩ := owns
  obtain ⟨second, repeated, present, theirs, again⟩ := also
  have createdOnce := honest.createdOnce
  rw [List.filterMap_map] at createdOnce
  obtain ⟨rfl, rfl⟩ := Prod.mk.inj (eq_of_mem_filterMap createdOnce member present created again)
  exact Option.some.inj (own.symm.trans theirs)

theorem Provider.Honest.of_append {more : List (Pool.Request × Performed)}
    (honest : Provider.Honest (traceOf (past ++ more))) : Provider.Honest (traceOf past) where
  createdOnce := by
    have createdOnce := honest.createdOnce
    rw [traceOf, List.map_append, List.filterMap_append] at createdOnce
    exact createdOnce.of_append_left
  faithful := by
    intro performed member
    apply honest.faithful
    rw [traceOf, List.map_append]
    exact List.mem_append_left _ member

end

/-- What a request has carried out is part of the history, and what it has seen its tenant linked to
belongs to that tenant. -/
structure Recorded (history : List (Pool.Request × Performed)) (request : Pool.Request)
    (trace : List Performed) : Prop where
  entered : ∀ performed ∈ trace, (request, performed) ∈ history
  shown : ∀ tenant providerId, ShownLinked trace tenant providerId → Owns history tenant providerId

def OwnsLinks (history : List (Pool.Request × Performed)) (rows : List Subscription) : Prop :=
  ∀ row ∈ rows, ∀ providerId, row.providerId = some providerId → Owns history row.tenant providerId

section

variable {past history : List (Pool.Request × Performed)} {request : Pool.Request}
  {trace : List Performed} {tenant : Uuid} {providerId : String}

/-- What a request may write to a row belongs to the tenant. -/
theorem Recorded.owns_of_told (recorded : Recorded history request trace)
    (honest : Provider.Honest (traceOf history)) (own : request.tenant? = some tenant)
    (told : Told trace tenant providerId) : Owns history tenant providerId := by
  have faithful : ∀ performed ∈ trace, performed.isFaithful := fun performed member =>
    honest.faithful performed (List.mem_map.mpr ⟨_, recorded.entered performed member, rfl⟩)
  cases told with
  | created answered => exact ⟨request, _, recorded.entered _ answered, own, rfl⟩
  | changed linked answered =>
      have same := of_decide_eq_true (faithful _ answered)
      exact same ▸ recorded.shown tenant _ linked
  | canceled linked answered =>
      have same := of_decide_eq_true (faithful _ answered)
      exact same ▸ recorded.shown tenant _ linked

theorem OwnsLinks.append {rows : List Subscription} (owns : OwnsLinks past rows)
    (more : List (Pool.Request × Performed)) : OwnsLinks (past ++ more) rows :=
  fun row member providerId linked => (owns row member providerId linked).append more

theorem Snapshot.providerId_apply (snapshot : Snapshot) (row : Subscription) (now : Instant) :
    (snapshot.apply row now).providerId = some snapshot.providerId := by
  obtain ⟨moment, applied⟩ := snapshot.apply_eq row now
  rw [applied]
  rfl

theorem Rewrites.owns {now : Instant} {action : Action} {old row : Subscription}
    (rewrites : Rewrites now action old row)
    (keeps : ∀ providerId, old.providerId = some providerId → Owns history old.tenant providerId)
    (recorded : Recorded history request trace) (honest : Provider.Honest (traceOf history))
    (allowed : (operationRules request.tenant?).allows trace action) :
    ∀ providerId, row.providerId = some providerId → Owns history row.tenant providerId := by
  intro providerId linked
  cases rewrites with
  | customer _ customerId => exact keeps providerId linked
  | snapshot _ snapshot =>
      rw [snapshot.providerId_apply] at linked
      obtain rfl := Option.some.inj linked
      rw [snapshot.tenant_apply]
      exact recorded.owns_of_told honest allowed.1 allowed.2
  | sync _ snapshot before =>
      rw [snapshot.providerId_apply] at linked
      rw [snapshot.tenant_apply]
      exact keeps providerId (before.trans linked)
  | cancel => exact keeps providerId linked

theorem RowsAfter.owns {now : Instant} {before after : List Subscription} {action : Action}
    (rowsAfter : RowsAfter now before action after) (oneEach : Store.OneEach before)
    (owns : OwnsLinks history before) (recorded : Recorded history request trace)
    (honest : Provider.Honest (traceOf history))
    (allowed : (operationRules request.tenant?).allows trace action) :
    Store.OneEach after ∧ OwnsLinks history after := by
  refine ⟨rowsAfter.oneEach oneEach, ?_⟩
  cases rowsAfter with
  | same => exact owns
  | added row inserts absent =>
      subst inserts
      obtain ⟨id, tenant, moment, _, rfl, _⟩ := allowed
      intro other member providerId linked
      rcases List.mem_append.mp member with earlier | last
      · exact owns other earlier providerId linked
      · rw [List.mem_singleton.mp last] at linked
        cases linked
  | written old row member rewrites =>
      rw [Store.putRow_of_mem oneEach member rewrites.tenant.symm]
      intro other found providerId linked
      rcases Store.mem_map_replacedBy found with rfl | ⟨present, _⟩
      · exact rewrites.owns (owns old member) recorded honest allowed providerId linked
      · exact owns other present providerId linked

theorem Recorded.append (recorded : Recorded past request trace)
    (more : List (Pool.Request × Performed)) : Recorded (past ++ more) request trace where
  entered := fun performed member => List.mem_append_left _ (recorded.entered performed member)
  shown := fun tenant providerId linked => (recorded.shown tenant providerId linked).append more

theorem Recorded.concat {performed : Performed} (recorded : Recorded past request trace)
    (shown : ∀ tenant row providerId, performed.Shows tenant row → row.providerId = some providerId →
      Owns (past ++ [(request, performed)]) tenant providerId) :
    Recorded (past ++ [(request, performed)]) request (trace ++ [performed]) where
  entered := by
    intro other member
    rcases List.mem_append.mp member with earlier | last
    · exact List.mem_append_left _ (recorded.entered other earlier)
    · rw [List.mem_singleton.mp last]
      exact List.mem_concat_self
  shown := by
    rintro tenant providerId ⟨row, linked, other, member, shows⟩
    rcases List.mem_append.mp member with earlier | last
    · exact (recorded.shown tenant providerId ⟨row, linked, other, earlier, shows⟩).append _
    · rw [List.mem_singleton.mp last] at shows
      exact shown tenant row providerId shows linked

end

theorem Service.mem_of_shows (service : Service) (answers : Provider.Answers) (action : Action)
    {tenant : Uuid} {row : Subscription}
    (shows : Performed.Shows tenant row ⟨action, (service.act answers action).1⟩) :
    row ∈ (service.act answers action).2.store.subscriptions ∧ row.tenant = tenant := by
  cases action with
  | findByTenant asked =>
      change Performed.Shows tenant row ⟨.findByTenant asked, service.store.findByTenant asked⟩ at shows
      rcases found : service.store.findByTenant asked with fault | _ | other
      · rw [found] at shows
        exact shows.elim
      · rw [found] at shows
        exact shows.elim
      · rw [found] at shows
        obtain ⟨rfl, rfl⟩ := shows
        exact Store.mem_of_findByTenant found
  | insertIfAbsent fresh =>
      change Performed.Shows tenant row
        ⟨.insertIfAbsent fresh, (service.store.insertIfAbsent fresh).1⟩ at shows
      rcases inserted : (service.store.insertIfAbsent fresh).1 with fault | other
      · rw [inserted] at shows
        exact shows.elim
      · rw [inserted] at shows
        obtain ⟨rfl, rfl⟩ := shows
        exact Store.mem_of_insertIfAbsent inserted
  | _ => exact shows.elim

namespace Pool

variable {catalog : Catalog} {pool : Pool} {past : List (Request × Performed)}

structure Owned (past : List (Request × Performed)) (pool : Pool) : Prop where
  oneEach : Store.OneEach pool.service.store.subscriptions
  links : OwnsLinks past pool.service.store.subscriptions
  running : ∀ running ∈ pool.running, ∃ trace, Recorded past running.request trace ∧
    running.left.Obeys (operationRules running.request.tenant?) trace fun _ _ => True

theorem started_owned (clock : Instant) : (started clock).Owned [] :=
  ⟨List.nodup_nil, by simp [OwnsLinks, started], by simp [started]⟩

theorem advance_owned (owned : pool.Owned past) (place : Nat) (answers : Provider.Answers)
    {running : Running} {action : Action} {next : action.Reply → Program running.request.Result}
    (member : running ∈ pool.running) (left : running.left = .step action next)
    (honest : Provider.Honest (traceOf
      (past ++ [(running.request, ⟨action, (pool.service.act answers action).1⟩)]))) :
    (pool.advance place answers running).Owned
      (past ++ [(running.request, ⟨action, (pool.service.act answers action).1⟩)]) := by
  obtain ⟨trace, recorded, obeys⟩ := owned.running running member
  rw [left] at obeys
  have links := (pool.service.act_rows answers action).owns owned.oneEach owned.links recorded
    honest.of_append obeys.1
  have now : OwnsLinks (past ++ [(running.request, ⟨action, (pool.service.act answers action).1⟩)]) _ :=
    links.2.append _
  unfold advance
  rw [left]
  refine ⟨links.1, now, fun other present => ?_⟩
  rcases List.mem_or_eq_of_mem_set present with waiting | rfl
  · obtain ⟨theirs, kept, keeps⟩ := owned.running other waiting
    exact ⟨theirs, kept.append _, keeps⟩
  · refine ⟨_, recorded.concat fun tenant row providerId shows linked => ?_, obeys.2 _⟩
    obtain ⟨there, own⟩ := pool.service.mem_of_shows answers action shows
    exact own ▸ now row there providerId linked

theorem step_owned (owned : pool.Owned past) (step : Step)
    (honest : Provider.Honest (traceOf (past ++ (pool.performed step).toList))) :
    (pool.step catalog step).Owned (past ++ (pool.performed step).toList) := by
  cases step with
  | begin request =>
      have begun : (pool.step catalog (.begin request)).Owned past := by
        refine ⟨owned.oneEach, owned.links, fun running member => ?_⟩
        rcases List.mem_append.mp member with earlier | last
        · exact owned.running running earlier
        · rw [List.mem_singleton.mp last]
          have nothing : Recorded past request [] := ⟨by simp, by simp [ShownLinked]⟩
          exact ⟨[], nothing, (request.conducts catalog).mono fun _ _ _ => trivial⟩
      simpa [performed] using begun
  | proceed place answers =>
      simp only [performed, Pool.step] at honest ⊢
      cases found : pool.running[place]? with
      | none => simpa [found] using owned
      | some running =>
          have member := List.mem_of_getElem? found
          rw [found, Option.bind_eq_bind, Option.bind_some] at honest
          cases left : running.left with
          | done result =>
              have returned : (pool.advance place answers running).Owned past := by
                unfold advance
                rw [left]
                exact ⟨owned.oneEach, owned.links, fun other remains =>
                  owned.running other (List.mem_of_mem_eraseIdx remains)⟩
              simpa [left] using returned
          | step action next =>
              simp only [left, Option.toList_some] at honest
              simpa [left] using advance_owned owned place answers member left honest
  | drop place =>
      have dropped : (pool.step catalog (.drop place)).Owned past :=
        ⟨owned.oneEach, owned.links, fun other remains =>
          owned.running other (List.mem_of_mem_eraseIdx remains)⟩
      simpa [performed] using dropped
  | clock now =>
      have set : (pool.step catalog (.clock now)).Owned past :=
        ⟨owned.oneEach, owned.links, owned.running⟩
      simpa [performed] using set
  | switch method down =>
      have switched : (pool.step catalog (.switch method down)).Owned past :=
        ⟨owned.oneEach, owned.links, owned.running⟩
      simpa [performed] using switched

theorem run_owned (owned : pool.Owned past) (steps : List Step)
    (honest : Provider.Honest (traceOf (past ++ history catalog pool steps))) :
    (pool.run catalog steps).Owned (past ++ history catalog pool steps) := by
  induction steps generalizing pool past with
  | nil =>
      rw [history, List.append_nil]
      exact owned
  | cons step steps ih =>
      rw [history, ← List.append_assoc] at honest ⊢
      exact ih (step_owned owned step honest.of_append) honest

theorem Owned.linkedOnce (owned : pool.Owned past) (honest : Provider.Honest (traceOf past)) :
    Store.LinkedOnce pool.service.store.subscriptions := by
  intro row member other present providerId linked also
  have same : row.tenant = other.tenant :=
    (owned.links row member providerId linked).unique honest (owned.links other present providerId also)
  exact owned.oneEach.eq member present same

/-- In every state that can be reached from an empty store, no two rows are linked to the same
subscription of the provider. So what copying a snapshot comes to is decided by the one row that is
linked to it, if there is one, and not by the order of the rows. -/
theorem links_unique (catalog : Catalog) (clock : Instant) (steps : List Step)
    (honest : Provider.Honest (traceOf (history catalog (started clock) steps))) :
    let store := ((started clock).run catalog steps).service.store
    Store.OneEach store.subscriptions ∧ Store.LinkedOnce store.subscriptions ∧
    ∀ snapshot now,
      (store.isDown .syncSnapshot = false → ∃ outcome after,
        store.syncSnapshot snapshot now = (.ok outcome, after) ∧
          store.Synced snapshot now outcome after) ∧
      ∀ reordered : Store, reordered.SameButOrder store →
        (reordered.syncSnapshot snapshot now).1 = (store.syncSnapshot snapshot now).1 ∧
          (reordered.syncSnapshot snapshot now).2.SameButOrder (store.syncSnapshot snapshot now).2 := by
  intro store
  have owned : ((started clock).run catalog steps).Owned (history catalog (started clock) steps) :=
    run_owned (started_owned clock) steps honest
  have linkedOnce : Store.LinkedOnce store.subscriptions := owned.linkedOnce honest
  refine ⟨owned.oneEach, linkedOnce, fun snapshot now => ⟨?_, fun reordered same => ?_⟩⟩
  · exact Store.syncSnapshot_synced owned.oneEach linkedOnce
  · exact Store.syncSnapshot_sameButOrder owned.oneEach linkedOnce same

def namingAnswers : Provider.Answers
  | .createCustomer request => .ok { id := request.name }
  | .createSubscription request => .ok { id := request.customerId, status := "active" }
  | .cancelSubscription id _ => .ok { id, status := "canceled" }
  | _ => .error .notConfigured

def twoTenants : List Step :=
  let together := [Step.proceed 0 namingAnswers, .proceed 1 namingAnswers]
  [.begin (.createCustomer ⟨1⟩ "a@acme.test" "acme"), .begin (.createCustomer ⟨2⟩ "b@bolt.test" "bolt")] ++
    (List.replicate 10 together).flatten ++
  [.begin (.subscribe ⟨1⟩ "pro" none), .begin (.subscribe ⟨2⟩ "pro" none)] ++
    (List.replicate 6 together).flatten ++
  [.begin (.cancel ⟨2⟩ true)] ++ List.replicate 4 (.proceed 0 namingAnswers)

theorem links_unique_twoTenants :
    let catalog : Catalog := ⟨some "price_pro", none⟩
    let clock : Instant := ⟨1700000000, 0⟩
    let store := ((started clock).run catalog twoTenants).service.store
    Provider.Honest (traceOf (history catalog (started clock) twoTenants)) ∧
    Store.LinkedOnce store.subscriptions ∧
    store.subscriptions.map (fun row => (row.tenant, row.providerId, row.status)) =
      [(⟨1⟩, some "acme", "active"), (⟨2⟩, some "bolt", "canceled")] := by
  intro catalog clock store
  have honest : Provider.Honest (traceOf (history catalog (started clock) twoTenants)) := by
    constructor <;> decide +kernel
  obtain ⟨_, linkedOnce, _⟩ := links_unique catalog clock twoTenants honest
  exact ⟨honest, linkedOnce, by decide +kernel⟩

end Pool

end UsageBilling
