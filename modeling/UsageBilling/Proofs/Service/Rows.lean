import UsageBilling.Proofs.Service.Conduct
import UsageBilling.Proofs.Store.Rows
import UsageBilling.Proofs.Tracker.Conservation
/-!
What an action can do to the subscription rows: nothing, add the row of a tenant that had none, or
write over one row that it has found, by its tenant or by its subscription at the provider.
-/
namespace UsageBilling

/-- What an action makes of the row that it finds. -/
inductive Rewrites (now : Instant) : Action → Subscription → Subscription → Prop
  | customer (row : Subscription) (customerId : String) :
      Rewrites now (.setProviderCustomer row.tenant customerId) row
        { row with customerId := some customerId, updatedAt := now }
  | snapshot (row : Subscription) (snapshot : Snapshot) :
      Rewrites now (.applySnapshot row.tenant snapshot) row (snapshot.apply row now)
  | sync (row : Subscription) (snapshot : Snapshot)
      (linked : row.providerId = some snapshot.providerId) :
      Rewrites now (.syncSnapshot snapshot) row (snapshot.apply row now)
  | cancel (row : Subscription) :
      Rewrites now (.markCanceled row.tenant) row
        { row with status := Status.canceled.name, canceledAt := some now, updatedAt := now }

inductive RowsAfter (now : Instant) (rows : List Subscription) (action : Action) :
    List Subscription → Prop
  | same : RowsAfter now rows action rows
  | added (row : Subscription) (inserts : action = .insertIfAbsent row)
      (absent : ∀ other ∈ rows, other.tenant ≠ row.tenant) : RowsAfter now rows action (rows ++ [row])
  | written (old row : Subscription) (member : old ∈ rows) (rewrites : Rewrites now action old row) :
      RowsAfter now rows action (Store.putRow row rows)

theorem Snapshot.tenant_apply (snapshot : Snapshot) (row : Subscription) (now : Instant) :
    (snapshot.apply row now).tenant = row.tenant := by
  unfold apply
  split <;> rfl

theorem Rewrites.tenant {now : Instant} {action : Action} {old row : Subscription}
    (rewrites : Rewrites now action old row) : row.tenant = old.tenant := by
  cases rewrites with
  | customer _ customerId => rfl
  | snapshot _ snapshot => exact snapshot.tenant_apply old now
  | sync _ snapshot linked => exact snapshot.tenant_apply old now
  | cancel => rfl

theorem RowsAfter.oneEach {now : Instant} {before after : List Subscription} {action : Action}
    (rowsAfter : RowsAfter now before action after) (oneEach : Store.OneEach before) :
    Store.OneEach after := by
  cases rowsAfter with
  | same => exact oneEach
  | added row inserts absent => exact Store.oneEach_append oneEach absent
  | written old row member rewrites =>
      rw [Store.putRow_of_mem oneEach member rewrites.tenant.symm]
      exact Store.oneEach_map_replacedBy oneEach row

namespace Store

variable {store : Store}

theorem rowsAfter_guarded {α : Type} {method : Method} {run : Except Fault α × Store} {now : Instant}
    {action : Action} (rows : RowsAfter now store.subscriptions action run.2.subscriptions) :
    RowsAfter now store.subscriptions action (store.guarded method run).2.subscriptions := by
  unfold guarded
  split
  · exact .same
  · exact rows

theorem rowsAfter_update {tenant : Uuid} {change : Subscription → Subscription} {now : Instant}
    {action : Action}
    (rewrites : ∀ row : Subscription, row.tenant = tenant → Rewrites now action row (change row)) :
    RowsAfter now store.subscriptions action (store.update tenant change).2.subscriptions := by
  unfold update
  split
  · exact .same
  · next row found =>
      obtain ⟨member, own⟩ := mem_of_rowOf? found
      exact .written row (change row) member (rewrites row own)

end Store

namespace Service

theorem subscriptions_flush (service : Service) (trigger : Trigger) :
    (service.flush trigger).2.store.subscriptions = service.store.subscriptions := by
  unfold flush
  dsimp only
  split
  · rfl
  · exact (service.beginFlush.sameButUsage_endFlush trigger _).subscriptions

theorem act_rows (service : Service) (answers : Provider.Answers) (action : Action) :
    RowsAfter service.clock service.store.subscriptions action
      (service.act answers action).2.store.subscriptions := by
  cases action with
  | insertIfAbsent row =>
      apply Store.rowsAfter_guarded
      split
      · exact .same
      · next missing =>
          have absent := Store.absent_of_rowOf? missing
          have appended : RowsAfter service.clock service.store.subscriptions (.insertIfAbsent row)
              (service.store.subscriptions ++ [row]) := .added row rfl absent
          rwa [← Store.putRow_of_absent absent] at appended
  | setProviderCustomer tenant customerId =>
      apply Store.rowsAfter_guarded
      apply Store.rowsAfter_update
      rintro row rfl
      exact .customer row customerId
  | applySnapshot tenant snapshot =>
      apply Store.rowsAfter_guarded
      apply Store.rowsAfter_update
      rintro row rfl
      exact .snapshot row snapshot
  | syncSnapshot snapshot =>
      apply Store.rowsAfter_guarded
      split
      · exact .same
      · next row found =>
          obtain ⟨member, linked⟩ := Store.mem_of_linkedRow? found
          exact .written row _ member (.sync row snapshot linked)
  | markCanceled tenant =>
      apply Store.rowsAfter_guarded
      apply Store.rowsAfter_update
      rintro row rfl
      exact .cancel row
  | markReported ids usageId =>
      apply Store.rowsAfter_guarded
      exact .same
  | track key quantity =>
      have store := service.store_track key quantity
      change RowsAfter _ _ _ (service.track key quantity).2.store.subscriptions
      rw [store]
      exact .same
  | flush =>
      have rows := service.subscriptions_flush .manual
      change RowsAfter _ _ _ (service.flush .manual).2.store.subscriptions
      rw [rows]
      exact .same
  | _ => exact .same

end Service

end UsageBilling
