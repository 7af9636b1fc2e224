import UsageBilling.Proofs.Store.Contents
import UsageBilling.Service.Run
/-!
What the actions of a service leave alone.
-/
namespace UsageBilling.Service

@[simp] theorem count_tracker (service : Service) (counter : Counter) :
    (service.count counter).tracker = service.tracker := rfl

@[simp] theorem count_store (service : Service) (counter : Counter) :
    (service.count counter).store = service.store := rfl

@[simp] theorem count_clock (service : Service) (counter : Counter) :
    (service.count counter).clock = service.clock := rfl

@[simp] theorem gauge_tracker (service : Service) : service.gauge.tracker = service.tracker := rfl

@[simp] theorem gauge_store (service : Service) : service.gauge.store = service.store := rfl

@[simp] theorem gauge_clock (service : Service) : service.gauge.clock = service.clock := rfl

/-- Neither the tracker nor the clock nor what the usage rows say is touched. -/
structure KeepsUsage (before after : Service) : Prop where
  tracker : after.tracker = before.tracker
  store : before.store.KeepsUsage after.store
  clock : after.clock = before.clock

theorem keepsUsage_onStore {α : Type} (service : Service) (run : Store → α × Store)
    (keeps : service.store.KeepsUsage (run service.store).2) :
    KeepsUsage service (service.onStore run).2 :=
  ⟨rfl, keeps, rfl⟩

theorem keepsUsage_ask (service : Service) (call : Provider.Call) :
    KeepsUsage service (service.ask call).2 := by
  unfold ask
  refine ⟨?_, ?_, ?_⟩ <;> dsimp only <;> split <;>
    first | rfl | exact .refl service.store

theorem keepsUsage_perform (service : Service) (action : Action)
    (books : ∀ key quantity, action ≠ .track key quantity) (flushes : action ≠ .flush) :
    KeepsUsage service (service.perform action).2 := by
  cases action with
  | insertIfAbsent row =>
      exact keepsUsage_onStore service _ (Store.keepsUsage_insertIfAbsent service.store row)
  | setProviderCustomer tenant customerId =>
      exact keepsUsage_onStore service _
        (Store.keepsUsage_guarded (Store.keepsUsage_update service.store tenant _))
  | applySnapshot tenant snapshot =>
      exact keepsUsage_onStore service _
        (Store.keepsUsage_guarded (Store.keepsUsage_update service.store tenant _))
  | syncSnapshot snapshot =>
      exact keepsUsage_onStore service _ (Store.keepsUsage_syncSnapshot service.store snapshot _)
  | markCanceled tenant =>
      exact keepsUsage_onStore service _
        (Store.keepsUsage_guarded (Store.keepsUsage_update service.store tenant _))
  | markReported ids usageId =>
      exact keepsUsage_onStore service _ (Store.keepsUsage_markReported service.store ids usageId _)
  | track key quantity => exact absurd rfl (books key quantity)
  | flush => exact absurd rfl flushes
  | ask call => exact keepsUsage_ask service call
  | _ => exact ⟨rfl, .refl service.store, rfl⟩

theorem usage_perform (service : Service) (action : Action)
    (books : ∀ key quantity, action ≠ .track key quantity) (flushes : action ≠ .flush)
    (marks : ∀ ids usageId, action ≠ .markReported ids usageId) :
    (service.perform action).2.store.usage = service.store.usage := by
  cases action with
  | insertIfAbsent row =>
      apply Store.usage_guarded
      split <;> rfl
  | setProviderCustomer tenant customerId =>
      exact Store.usage_guarded (Store.usage_update service.store tenant _)
  | applySnapshot tenant snapshot =>
      exact Store.usage_guarded (Store.usage_update service.store tenant _)
  | syncSnapshot snapshot =>
      apply Store.usage_guarded
      split <;> rfl
  | markCanceled tenant => exact Store.usage_guarded (Store.usage_update service.store tenant _)
  | markReported ids usageId => exact absurd rfl (marks ids usageId)
  | track key quantity => exact absurd rfl (books key quantity)
  | flush => exact absurd rfl flushes
  | ask call =>
      simp only [perform, ask]
      split <;> rfl
  | _ => rfl

theorem track_cases (service : Service) (key : UsageKey) (quantity : Nat) :
    service.tracker.closed = true ∧ service.track key quantity = (.error .closed, service) ∨
    service.tracker.closed = false ∧ quantity = 0 ∧ service.track key quantity = (.ok (), service) ∨
    service.tracker.closed = false ∧ quantity ≠ 0 ∧
      (service.track key quantity).1 = .ok () ∧
      (service.track key quantity).2.tracker =
        service.tracker.book key (Quantity.ofCount quantity) ∧
      (service.track key quantity).2.store = service.store ∧
      (service.track key quantity).2.clock = service.clock := by
  unfold track
  cases closed : service.tracker.closed with
  | true => exact .inl ⟨rfl, rfl⟩
  | false =>
      by_cases zero : quantity = 0
      · simp [zero]
      · simp [zero]

theorem store_track (service : Service) (key : UsageKey) (quantity : Nat) :
    (service.track key quantity).2.store = service.store := by
  rcases service.track_cases key quantity with ⟨_, idle⟩ | ⟨_, _, idle⟩ | ⟨_, _, _, _, store, _⟩
  · rw [idle]
  · rw [idle]
  · exact store

end UsageBilling.Service
