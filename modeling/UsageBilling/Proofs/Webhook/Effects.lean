import UsageBilling.Proofs.Service.Conduct
import UsageBilling.Proofs.Service.Frame
import UsageBilling.Proofs.Store.Rows
import UsageBilling.Proofs.Subscription.Links
import UsageBilling.Webhook.Dispatch
/-!
What an accepted event does: at most one call, and at most one row is written over.
-/
namespace UsageBilling

structure Subscription.KeepsOwn (before after : Subscription) : Prop where
  id : after.id = before.id
  tenant : after.tenant = before.tenant
  customerId : after.customerId = before.customerId
  billingAnchor : after.billingAnchor = before.billingAnchor
  metadata : after.metadata = before.metadata
  createdAt : after.createdAt = before.createdAt

theorem Snapshot.keepsOwn_apply (snapshot : Snapshot) (row : Subscription) (now : Instant) :
    row.KeepsOwn (snapshot.apply row now) := by
  obtain ⟨moment, applied⟩ := snapshot.apply_eq row now
  rw [applied]
  exact ⟨rfl, rfl, rfl, rfl, rfl, rfl⟩

namespace Store

def LinkedOnce (rows : List Subscription) : Prop :=
  ∀ row ∈ rows, ∀ other ∈ rows, ∀ providerId,
    row.providerId = some providerId → other.providerId = some providerId → row = other

variable {store : Store} {snapshot : Snapshot}

theorem linkedRow?_eq_some {row : Subscription} {providerId : String}
    (linkedOnce : LinkedOnce store.subscriptions) (member : row ∈ store.subscriptions)
    (linked : row.providerId = some providerId) : store.linkedRow? providerId = some row :=
  linkedRow?_of_only member linked fun other present own =>
    linkedOnce other present row member providerId own linked

theorem syncSnapshot_linked {row : Subscription} (now : Instant) (oneEach : OneEach store.subscriptions)
    (linkedOnce : LinkedOnce store.subscriptions) (working : store.isDown .syncSnapshot = false)
    (member : row ∈ store.subscriptions) (linked : row.providerId = some snapshot.providerId) :
    (store.syncSnapshot snapshot now).2 =
      { store with subscriptions := store.subscriptions.map (replacedBy (snapshot.apply row now)) } := by
  have same := (snapshot.keepsOwn_apply row now).tenant.symm
  unfold syncSnapshot
  rw [guarded_ok working, linkedRow?_eq_some linkedOnce member linked]
  dsimp only [put]
  rw [putRow_of_mem oneEach member same]

theorem syncSnapshot_down (snapshot : Snapshot) (now : Instant)
    (down : store.isDown .syncSnapshot = true) : (store.syncSnapshot snapshot now).2 = store := by
  unfold syncSnapshot
  rw [guarded_error down]

theorem syncSnapshot_unlinked (now : Instant)
    (unlinked : ∀ row ∈ store.subscriptions, row.providerId ≠ some snapshot.providerId) :
    (store.syncSnapshot snapshot now).2 = store := by
  have missing : store.linkedRow? snapshot.providerId = none := by
    apply List.find?_eq_none.mpr
    intro row member
    simpa using unlinked row member
  unfold syncSnapshot guarded
  rw [missing]
  split <;> rfl

end Store

namespace Webhook

/-- The event names a subscription: in the field `id` of its object where that is a subscription, and
else in the field `subscription`. -/
def Event.Names (event : Event) (id : String) : Prop :=
  id ≠ "" ∧ event.object.field?
    (if event.isAboutSubscription then "id" else "subscription") = some (.str id)

def Event.Asks (event : Event) (id : String) : Prop := event.type ∈ syncTypes ∧ event.Names id

/-- What an event that has been accepted does. -/
structure Handled (catalog : Catalog) (event : Event) (answers : Provider.Answers)
    (before after : Service) : Prop where
  asked : ∀ id, event.Asks id → after.calls = before.calls ++ [.getSubscription id]
  silent : (∀ id, ¬ event.Asks id) → after.calls = before.calls
  /-- The row that is linked to what the provider returned takes over what the provider decides. -/
  copied : ∀ id remote row, event.Asks id → answers (.getSubscription id) = .ok remote →
    row ∈ before.store.subscriptions → row.providerId = some remote.id →
    before.store.isDown .syncSnapshot = false →
    ∃ written, written = (Snapshot.ofRemote remote (catalog.planOf remote)).apply row before.clock ∧
      row.KeepsOwn written ∧ after.store =
        { before.store with subscriptions := before.store.subscriptions.map (Store.replacedBy written) }
  kept : (∀ id remote row, event.Asks id → answers (.getSubscription id) = .ok remote →
    row ∈ before.store.subscriptions → row.providerId ≠ some remote.id) → after.store = before.store
  /-- Where the store cannot copy, nothing is written. -/
  down : before.store.isDown .syncSnapshot = true → after.store = before.store

section

variable {event : Event} {id : String}

theorem text?_eq_some_iff {value : Json} {text : String} : value.text? = some text ↔ value = .str text := by
  cases value <;> simp [Json.text?]

theorem subscriptionId?_eq_some_iff : event.subscriptionId? = some id ↔ event.Names id := by
  unfold Event.subscriptionId? Event.Names
  rw [Option.filter_eq_some_iff, Option.bind_eq_some_iff, and_comm]
  simp [text?_eq_some_iff]

theorem ofType_eq_sync_iff {type : String} : Interest.ofType type = .sync ↔ type ∈ syncTypes := by
  unfold Interest.ofType
  by_cases member : type ∈ syncTypes
  · simp [member]
  · simp only [List.contains_iff_mem, member, if_false, iff_false]
    split <;> simp

end

section

variable (catalog : Catalog) (answers : Provider.Answers) (service : Service)

def afterSync (id : String) : Store :=
  match answers (.getSubscription id) with
  | .ok remote =>
    (service.store.syncSnapshot (.ofRemote remote (catalog.planOf remote)) service.clock).2
  | .error _ => service.store

theorem sync_steps (id : String) : (Lifecycle.sync catalog id).outcome =
    .step (.ask (.getSubscription id)) fun
      | .error error => .step (.count (.errors "provider" "get_subscription")) fun _ =>
        .done (.error error.toFault)
      | .ok remote => .step (.syncSnapshot (.ofRemote remote (catalog.planOf remote))) fun
        | .error fault => .done (.error fault)
        | .ok outcome => .step (.count (.operations (.sync outcome))) fun _ => .done (.ok outcome) := by
  apply congrArg (Program.step _)
  funext answer
  cases answer with
  | error error => rfl
  | ok remote =>
      apply congrArg (Program.step _)
      funext synced
      cases synced <;> rfl

theorem runWith_sync (id : String) :
    ((Lifecycle.sync catalog id).outcome.runWith answers service).2.calls =
        service.calls ++ [.getSubscription id] ∧
      ((Lifecycle.sync catalog id).outcome.runWith answers service).2.store =
        afterSync catalog answers service id := by
  rw [sync_steps, afterSync]
  simp only [Program.runWith, Service.act]
  cases answers (.getSubscription id) with
  | error error => exact ⟨rfl, rfl⟩
  | ok remote =>
      simp only [Program.runWith, Service.act, Service.perform, Service.onStore]
      cases (service.store.syncSnapshot (.ofRemote remote (catalog.planOf remote)) service.clock).1 with
      | error fault => exact ⟨rfl, rfl⟩
      | ok outcome => exact ⟨rfl, rfl⟩

theorem runWith_dispatch_of_asks {event : Event} {id : String} (asks : event.Asks id) :
    ((dispatch catalog event).run.runWith answers service).2 =
      ((Lifecycle.sync catalog id).outcome.runWith answers service).2 := by
  unfold dispatch
  rw [ofType_eq_sync_iff.mpr asks.1, subscriptionId?_eq_some_iff.mpr asks.2]
  change ((((Lifecycle.sync catalog id).outcome >>= fun result => pure (Except.ok result)) >>= _).runWith
    answers service).2 = _
  rw [Program.runWith_bind, Program.runWith_bind]
  dsimp only [pure, Program.runWith]
  cases ((Lifecycle.sync catalog id).outcome.runWith answers service).1 <;> rfl

theorem runWith_dispatch_of_silent {event : Event} (silent : ∀ id, ¬ event.Asks id) :
    ((dispatch catalog event).run.runWith answers service).2 = service := by
  unfold dispatch
  split
  · next id sync named =>
      exact absurd ⟨ofType_eq_sync_iff.mp sync, subscriptionId?_eq_some_iff.mp named⟩ (silent id)
  · rfl
  · rfl

variable {catalog answers service} {event : Event}

theorem store_dispatch :
    (∃ id, event.Asks id ∧ ((dispatch catalog event).run.runWith answers service).2.store =
      afterSync catalog answers service id) ∨
    ((dispatch catalog event).run.runWith answers service).2.store = service.store := by
  by_cases asks : ∃ id, event.Asks id
  · obtain ⟨id, asks⟩ := asks
    left
    refine ⟨id, asks, ?_⟩
    rw [runWith_dispatch_of_asks catalog answers service asks]
    exact (runWith_sync catalog answers service id).2
  · right
    rw [runWith_dispatch_of_silent catalog answers service fun id asked => asks ⟨id, asked⟩]

theorem dispatch_handled (oneEach : Store.OneEach service.store.subscriptions)
    (linkedOnce : Store.LinkedOnce service.store.subscriptions) :
    Handled catalog event answers service ((dispatch catalog event).run.runWith answers service).2 where
  asked := by
    intro id asks
    rw [runWith_dispatch_of_asks catalog answers service asks]
    exact (runWith_sync catalog answers service id).1
  silent := by
    intro silent
    rw [runWith_dispatch_of_silent catalog answers service silent]
  copied := by
    intro id remote row asks answered member linked working
    rw [runWith_dispatch_of_asks catalog answers service asks,
      (runWith_sync catalog answers service id).2, afterSync, answered]
    refine ⟨_, rfl, Snapshot.keepsOwn_apply _ row service.clock, ?_⟩
    exact Store.syncSnapshot_linked service.clock oneEach linkedOnce working member linked
  kept := by
    intro unlinked
    rcases store_dispatch with ⟨id, asks, stored⟩ | stored
    · rw [stored, afterSync]
      split
      · next remote answered =>
          exact Store.syncSnapshot_unlinked service.clock fun row member =>
            unlinked id remote row asks answered member
      · rfl
    · exact stored
  down := by
    intro down
    rcases store_dispatch with ⟨id, asks, stored⟩ | stored
    · rw [stored, afterSync]
      split
      · exact Store.syncSnapshot_down _ service.clock down
      · rfl
    · exact stored

end

end Webhook

end UsageBilling
