import UsageBilling.Proofs.Subscription.Conduct
/-!
Plans, prices and links stay consistent, however requests interleave and whatever the provider answers.
The invariant: every tenant has at most one row, every row is consistent, and what is left of each
request keeps to the rules given the tenants that are customers by now. A link that a request has seen
is still there when it writes, since no action takes a link away.
-/
namespace UsageBilling

def KeepsRows (before after : List Subscription) : Prop :=
  ∀ row ∈ before, ∃ later ∈ after, row.KeepsLinks later

def Customers (rows : List Subscription) (tenant : Uuid) : Prop :=
  ∃ row ∈ rows, row.tenant = tenant ∧ row.customerId.isSome

structure Orderly (catalog : Catalog) (rows : List Subscription) : Prop where
  oneEach : Store.OneEach rows
  consistent : ∀ row ∈ rows, row.Consistent catalog

section

variable {catalog : Catalog} {rows before after : List Subscription}

theorem KeepsRows.refl (rows : List Subscription) : KeepsRows rows rows :=
  fun row member => ⟨row, member, .refl row⟩

theorem KeepsRows.trans {last : List Subscription} (first : KeepsRows before after)
    (second : KeepsRows after last) : KeepsRows before last := by
  intro row member
  obtain ⟨next, present, kept⟩ := first row member
  obtain ⟨final, there, still⟩ := second next present
  exact ⟨final, there, kept.trans still⟩

theorem KeepsRows.customers (keeps : KeepsRows before after) {tenant : Uuid}
    (customer : Customers before tenant) : Customers after tenant := by
  obtain ⟨row, member, own, linked⟩ := customer
  obtain ⟨later, present, kept⟩ := keeps row member
  exact ⟨later, present, kept.tenant.trans own, kept.customer linked⟩

theorem orderly_nil (catalog : Catalog) : Orderly catalog [] := ⟨List.nodup_nil, by simp⟩

theorem Orderly.customer (orderly : Orderly catalog rows) {row : Subscription} (member : row ∈ rows)
    (customer : Customers rows row.tenant) : row.customerId.isSome := by
  obtain ⟨other, present, same, linked⟩ := customer
  rwa [← orderly.oneEach.eq present member same]

theorem Subscription.Consistent.customer_of_isLinked {row : Subscription}
    (consistent : row.Consistent catalog) (linked : row.IsLinked) : row.customerId.isSome := by
  rcases linked with customer | subscribed
  · exact customer
  · exact consistent.customer subscribed

theorem Rewrites.keeps {now : Instant} {action : Action} {old row : Subscription}
    (rewrites : Rewrites now action old row) (orderly : Orderly catalog rows) (member : old ∈ rows)
    (allowed : (linkRules catalog).allows (Customers rows) action) :
    row.Consistent catalog ∧ old.KeepsLinks row := by
  have consistent := orderly.consistent old member
  cases rewrites with
  | customer _ customerId =>
      exact ⟨⟨consistent.priced, consistent.subscribed, fun _ => rfl⟩, rfl, id, id, fun _ => rfl⟩
  | snapshot _ snapshot =>
      have customer := orderly.customer member allowed.1
      exact ⟨Snapshot.consistent_apply allowed.2 consistent customer now,
        Snapshot.keepsLinks_apply allowed.2 old now⟩
  | sync _ snapshot linked =>
      have customer := consistent.customer (by simp [linked])
      exact ⟨Snapshot.consistent_apply allowed consistent customer now,
        Snapshot.keepsLinks_apply allowed old now⟩
  | cancel =>
      exact ⟨⟨consistent.priced, consistent.subscribed, consistent.customer⟩, rfl, id, id, id⟩

theorem RowsAfter.orderly {now : Instant} {action : Action} (rowsAfter : RowsAfter now before action after)
    (orderly : Orderly catalog before)
    (allowed : (linkRules catalog).allows (Customers before) action) :
    Orderly catalog after ∧ KeepsRows before after := by
  have oneEach := rowsAfter.oneEach orderly.oneEach
  cases rowsAfter with
  | same => exact ⟨orderly, .refl before⟩
  | added row inserts absent =>
      subst inserts
      obtain ⟨id, tenant, moment, rfl⟩ := allowed
      refine ⟨⟨oneEach, ?_⟩, ?_⟩
      · intro other member
        rcases List.mem_append.mp member with earlier | last
        · exact orderly.consistent other earlier
        · rw [List.mem_singleton.mp last]
          exact Subscription.consistent_freeTier catalog id tenant moment
      · intro other member
        exact ⟨other, List.mem_append_left _ member, .refl other⟩
  | written old row member rewrites =>
      obtain ⟨consistent, keeps⟩ := rewrites.keeps orderly member allowed
      refine ⟨⟨oneEach, ?_⟩, ?_⟩
      · rw [Store.putRow_of_mem orderly.oneEach member rewrites.tenant.symm]
        intro other found
        rcases Store.mem_map_replacedBy found with rfl | ⟨present, _⟩
        · exact consistent
        · exact orderly.consistent other present
      · exact Store.related_putRow Subscription.KeepsLinks.refl orderly.oneEach member rewrites.tenant keeps

end

theorem Service.customer_of_shows {catalog : Catalog} (service : Service) (answers : Provider.Answers)
    (action : Action) {tenant : Uuid}
    (consistent : ∀ row ∈ (service.act answers action).2.store.subscriptions, row.Consistent catalog)
    (shows : ShowsCustomer action (service.act answers action).1 tenant) :
    Customers (service.act answers action).2.store.subscriptions tenant := by
  cases action with
  | findByTenant asked =>
      change ShowsCustomer (.findByTenant asked) (service.store.findByTenant asked) tenant at shows
      cases found : service.store.findByTenant asked with
      | error fault =>
          rw [found] at shows
          exact shows.elim
      | ok row? =>
          rw [found] at shows
          cases row? with
          | none => exact shows.elim
          | some row =>
              obtain ⟨rfl, linked⟩ := shows
              obtain ⟨member, own⟩ := Store.mem_of_findByTenant found
              exact ⟨row, member, own, (consistent row member).customer_of_isLinked linked⟩
  | insertIfAbsent fresh =>
      change ShowsCustomer (.insertIfAbsent fresh) (service.store.insertIfAbsent fresh).1 tenant at shows
      cases inserted : (service.store.insertIfAbsent fresh).1 with
      | error fault =>
          rw [inserted] at shows
          exact shows.elim
      | ok row =>
          rw [inserted] at shows
          obtain ⟨rfl, linked⟩ := shows
          obtain ⟨member, own⟩ := Store.mem_of_insertIfAbsent inserted
          exact ⟨row, member, own, (consistent row member).customer_of_isLinked linked⟩
  | _ => exact shows.elim

namespace Pool

variable {catalog : Catalog} {pool : Pool}

structure Sound (catalog : Catalog) (pool : Pool) : Prop where
  orderly : Orderly catalog pool.service.store.subscriptions
  keepsLinks : ∀ running ∈ pool.running,
    running.left.KeepsLinks catalog (Customers pool.service.store.subscriptions)

theorem started_sound (catalog : Catalog) (clock : Instant) : (started clock).Sound catalog :=
  ⟨orderly_nil catalog, by simp [started]⟩

theorem advance_sound (sound : pool.Sound catalog) (place : Nat) (answers : Provider.Answers)
    {running : Running} (member : running ∈ pool.running) :
    (pool.advance place answers running).Sound catalog ∧
      KeepsRows pool.service.store.subscriptions
        (pool.advance place answers running).service.store.subscriptions := by
  have keeps := sound.keepsLinks running member
  unfold advance
  cases left : running.left with
  | done result =>
      refine ⟨⟨sound.orderly, fun other remains => ?_⟩, .refl _⟩
      exact sound.keepsLinks other (List.mem_of_mem_eraseIdx remains)
  | step action next =>
      rw [left] at keeps
      obtain ⟨orderly, kept⟩ :=
        (pool.service.act_rows answers action).orderly sound.orderly keeps.1
      refine ⟨⟨orderly, fun other present => ?_⟩, kept⟩
      rcases List.mem_or_eq_of_mem_set present with waiting | rfl
      · exact (sound.keepsLinks other waiting).withMore fun tenant => kept.customers
      · refine Program.KeepsLinks.withMore (keeps.2 _) fun tenant known => ?_
        rcases known with earlier | shows
        · exact kept.customers earlier
        · exact pool.service.customer_of_shows answers action orderly.consistent shows

theorem step_sound (sound : pool.Sound catalog) (step : Step) :
    (pool.step catalog step).Sound catalog ∧
      KeepsRows pool.service.store.subscriptions
        (pool.step catalog step).service.store.subscriptions := by
  cases step with
  | begin request =>
      refine ⟨⟨sound.orderly, fun running member => ?_⟩, .refl _⟩
      rcases List.mem_append.mp member with earlier | last
      · exact sound.keepsLinks running earlier
      · rw [List.mem_singleton.mp last]
        exact request.keepsLinks catalog _
  | proceed place answers =>
      unfold Pool.step
      dsimp only
      split
      · next running found =>
          exact advance_sound sound place answers (List.mem_of_getElem? found)
      · exact ⟨sound, .refl _⟩
  | drop place =>
      refine ⟨⟨sound.orderly, fun running remains => ?_⟩, .refl _⟩
      exact sound.keepsLinks running (List.mem_of_mem_eraseIdx remains)
  | clock now => exact ⟨⟨sound.orderly, sound.keepsLinks⟩, .refl _⟩
  | switch method down => exact ⟨⟨sound.orderly, sound.keepsLinks⟩, .refl _⟩

theorem run_sound (sound : pool.Sound catalog) (steps : List Step) :
    (pool.run catalog steps).Sound catalog ∧
      KeepsRows pool.service.store.subscriptions
        (pool.run catalog steps).service.store.subscriptions := by
  induction steps generalizing pool with
  | nil => exact ⟨sound, .refl _⟩
  | cons step steps ih =>
      obtain ⟨next, first⟩ := step_sound sound step
      obtain ⟨last, rest⟩ := ih next
      exact ⟨last, first.trans rest⟩

/-- In every state that can be reached from an empty store, each row has a plan of the catalog with its
price, which is missing exactly for the free plan, and no link stands without the one that it needs. No
link is ever taken away, and no row. -/
theorem rows_consistent (catalog : Catalog) (clock : Instant) (earlier later : List Step) :
    (∀ row ∈ ((started clock).run catalog earlier).service.store.subscriptions,
      row.Consistent catalog) ∧
    Store.OneEach ((started clock).run catalog earlier).service.store.subscriptions ∧
    KeepsRows ((started clock).run catalog earlier).service.store.subscriptions
      ((started clock).run catalog (earlier ++ later)).service.store.subscriptions := by
  obtain ⟨sound, _⟩ := run_sound (started_sound catalog clock) earlier
  obtain ⟨_, kept⟩ := run_sound sound later
  unfold run at kept ⊢
  rw [List.foldl_append]
  exact ⟨sound.orderly.consistent, sound.orderly.oneEach, kept⟩

end Pool

end UsageBilling
