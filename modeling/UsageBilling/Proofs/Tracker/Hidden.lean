import UsageBilling.Proofs.Tracker.Stamps
/-!
Flushes are hidden: putting them in anywhere changes neither what is accepted later nor any
subscription.
-/
namespace UsageBilling

def Move.flushes : Move → Bool
  | .event (.track ..) | .event .close | .act _ | .put _ | .clock _ | .backend _ => false
  | .event _ | .drop _ => true
  | .switch method _ => method = .insertUsage

namespace Store

variable {left right : Store}

theorem subscriptions_guarded {α : Type} {method : Method} {first second : Except Fault α × Store}
    (down : left.isDown method = right.isDown method)
    (same : left.subscriptions = right.subscriptions)
    (runs : first.2.subscriptions = second.2.subscriptions) :
    (left.guarded method first).2.subscriptions = (right.guarded method second).2.subscriptions := by
  unfold guarded
  rw [down]
  split
  · exact same
  · exact runs

theorem rowOf?_congr (same : left.subscriptions = right.subscriptions) (tenant : Uuid) :
    left.rowOf? tenant = right.rowOf? tenant := by
  unfold rowOf?
  rw [same]

theorem subscriptions_put (same : left.subscriptions = right.subscriptions) (row : Subscription) :
    (left.put row).subscriptions = (right.put row).subscriptions := by
  unfold put
  simp only [same]

theorem subscriptions_update (same : left.subscriptions = right.subscriptions) (tenant : Uuid)
    (change : Subscription → Subscription) :
    (left.update tenant change).2.subscriptions = (right.update tenant change).2.subscriptions := by
  unfold update
  rw [rowOf?_congr same]
  split
  · exact same
  · exact subscriptions_put same _

end Store

namespace Service

/-- The same for everything but flushes. -/
structure Alike (left right : Service) : Prop where
  clock : left.clock = right.clock
  closed : left.tracker.closed = right.tracker.closed
  subscriptions : left.store.subscriptions = right.store.subscriptions
  outages : ∀ method, method ≠ Store.Method.insertUsage →
    left.store.isDown method = right.store.isDown method

variable {left right third service : Service}

theorem Alike.refl (service : Service) : Alike service service := ⟨rfl, rfl, rfl, fun _ _ => rfl⟩

theorem Alike.symm (alike : Alike left right) : Alike right left :=
  ⟨alike.clock.symm, alike.closed.symm, alike.subscriptions.symm,
    fun method other => (alike.outages method other).symm⟩

theorem Alike.trans (first : Alike left right) (second : Alike right third) : Alike left third := by
  refine ⟨first.clock.trans second.clock, first.closed.trans second.closed,
    first.subscriptions.trans second.subscriptions, ?_⟩
  intro method other
  rw [first.outages method other, second.outages method other]

theorem alike_track (service : Service) (key : UsageKey) (quantity : Nat) :
    Alike service (service.track key quantity).2 := by
  rcases service.track_cases key quantity with ⟨_, idle⟩ | ⟨_, _, idle⟩ |
    ⟨_, _, _, tracker, store, clock⟩
  · rw [idle]
    exact .refl service
  · rw [idle]
    exact .refl service
  · refine ⟨clock.symm, ?_, ?_, ?_⟩
    · rw [tracker]
      rfl
    · rw [store]
    · rw [store]
      exact fun _ _ => rfl

theorem isOk_track (service : Service) (key : UsageKey) (quantity : Nat) :
    (service.track key quantity).1.isOk = !service.tracker.closed := by
  rcases service.track_cases key quantity with ⟨closed, idle⟩ | ⟨closed, _, idle⟩ |
    ⟨closed, _, accepted, _⟩
  · rw [idle, closed]
    rfl
  · rw [idle, closed]
    rfl
  · rw [accepted, closed]
    rfl

theorem subscriptions_perform (alike : Alike left right) (action : Action)
    (books : ∀ key quantity, action ≠ .track key quantity) (flushes : action ≠ .flush) :
    (left.perform action).2.store.subscriptions = (right.perform action).2.store.subscriptions := by
  have same := alike.subscriptions
  have update : ∀ method tenant (change : Subscription → Subscription), method ≠ .insertUsage →
      (left.store.guarded method (left.store.update tenant change)).2.subscriptions =
        (right.store.guarded method (right.store.update tenant change)).2.subscriptions :=
    fun method tenant change other => Store.subscriptions_guarded (alike.outages method other) same
      (Store.subscriptions_update same tenant change)
  cases action with
  | insertIfAbsent row =>
      apply Store.subscriptions_guarded (alike.outages _ (by decide)) same
      rw [Store.rowOf?_congr same]
      split
      · exact same
      · exact Store.subscriptions_put same row
  | setProviderCustomer tenant customerId =>
      simp only [perform, alike.clock]
      exact update .setProviderCustomer tenant _ (by decide)
  | applySnapshot tenant snapshot =>
      simp only [perform, alike.clock]
      exact update .applySnapshot tenant _ (by decide)
  | syncSnapshot snapshot =>
      simp only [perform, alike.clock]
      apply Store.subscriptions_guarded (alike.outages _ (by decide)) same
      unfold Store.linkedRow?
      rw [same]
      split
      · exact same
      · exact Store.subscriptions_put same _
  | markCanceled tenant =>
      simp only [perform, alike.clock]
      exact update .markCanceled tenant _ (by decide)
  | markReported ids usageId =>
      exact Store.subscriptions_guarded (alike.outages _ (by decide)) same same
  | track key quantity => exact absurd rfl (books key quantity)
  | flush => exact absurd rfl flushes
  | ask call =>
      simp only [perform, ask]
      split <;> split <;> exact same
  | _ => exact same

theorem alike_perform (alike : Alike left right) (action : Action) (flushes : action ≠ .flush) :
    Alike (left.perform action).2 (right.perform action).2 := by
  by_cases books : ∃ key quantity, action = .track key quantity
  · obtain ⟨key, quantity, rfl⟩ := books
    exact ((alike_track left key quantity).symm.trans alike).trans (alike_track right key quantity)
  · have noTrack : ∀ key quantity, action ≠ .track key quantity :=
      fun key quantity same => books ⟨key, quantity, same⟩
    have first := keepsUsage_perform left action noTrack flushes
    have second := keepsUsage_perform right action noTrack flushes
    refine ⟨?_, ?_, subscriptions_perform alike action noTrack flushes, ?_⟩
    · rw [first.clock, second.clock, alike.clock]
    · rw [first.tracker, second.tracker, alike.closed]
    · intro method other
      have same := alike.outages method other
      unfold Store.isDown at *
      rw [first.store.outages, second.store.outages, same]

theorem alike_stepFlush (service : Service) (trigger : Trigger) (stage : Flush) :
    Alike service (service.stepFlush trigger stage).2 := by
  have same := service.sameButUsage_stepFlush trigger stage
  refine ⟨same.clock.symm, same.closed.symm, same.subscriptions.symm, fun method _ => ?_⟩
  unfold Store.isDown
  rw [same.outages]

end Service

namespace Pipeline

variable {left right : Pipeline}

theorem alike_flushing (pipeline : Pipeline) {move : Move} (flushes : move.flushes = true) :
    pipeline.service.Alike (pipeline.after move).service ∧
      ∀ key, pipeline.accepts key move = 0 := by
  cases move with
  | event event =>
      refine ⟨?_, ?_⟩
      · have effect := pipeline.effect event
        rw [after_event]
        generalize pipeline.perform event = performed at effect ⊢
        cases effect with
        | booked | closes | refused => cases flushes
        | worked =>
            rcases pipeline.work_cases with ⟨_, idle⟩ | ⟨job, rest, _, service, _⟩
            · rw [idle]
              exact .refl _
            · rw [service]
              exact Service.alike_stepFlush _ _ _
        | woken => exact ⟨rfl, rfl, rfl, fun _ _ => rfl⟩
        | _ => exact .refl _
      · intro key
        cases event with
        | track key quantity => cases flushes
        | _ => rfl
  | drop flusher =>
      refine ⟨?_, fun key => rfl⟩
      cases flusher <;> exact .refl _
  | switch method down =>
      have usage : method = .insertUsage := of_decide_eq_true flushes
      refine ⟨⟨rfl, rfl, rfl, ?_⟩, fun key => rfl⟩
      intro other different
      have apart : other ≠ method := fun same => different (same.trans usage)
      cases down <;> simp [after, withStore, Store.setOutage, Store.isDown, apart]
  | _ => cases flushes

theorem alike_after (alike : left.service.Alike right.service) {move : Move}
    (visible : move.flushes = false) : (left.after move).service.Alike (right.after move).service ∧
      ∀ key, left.accepts key move = right.accepts key move := by
  have accepted : ∀ key quantity, (left.service.track key quantity).1.isOk =
      (right.service.track key quantity).1.isOk := by
    intro key quantity
    rw [Service.isOk_track, Service.isOk_track, alike.closed]
  cases move with
  | event event =>
      cases event with
      | track key quantity =>
          refine ⟨?_, fun asked => ?_⟩
          · exact ((Service.alike_track left.service key quantity).symm.trans alike).trans
              (Service.alike_track right.service key quantity)
          · simp only [accepts, accepted]
      | close =>
          refine ⟨?_, fun asked => rfl⟩
          simp only [after_event, service_close]
          exact ⟨alike.clock, rfl, alike.subscriptions, alike.outages⟩
      | _ => cases visible
  | act action =>
      by_cases flushes : action = .flush
      · subst flushes
        exact ⟨alike, fun key => rfl⟩
      · rw [left.after_act flushes, right.after_act flushes]
        refine ⟨Service.alike_perform alike action flushes, fun asked => ?_⟩
        cases action with
        | track key quantity => simp only [accepts, accepted]
        | _ => rfl
  | put row =>
      exact ⟨⟨alike.clock, alike.closed, Store.subscriptions_put alike.subscriptions row,
        alike.outages⟩, fun key => rfl⟩
  | clock now => exact ⟨⟨rfl, alike.closed, alike.subscriptions, alike.outages⟩, fun key => rfl⟩
  | backend backend =>
      exact ⟨⟨alike.clock, alike.closed, alike.subscriptions, alike.outages⟩, fun key => rfl⟩
  | switch method down =>
      refine ⟨⟨alike.clock, alike.closed, alike.subscriptions, ?_⟩, fun key => rfl⟩
      intro other different
      have same := alike.outages other different
      simp only [after, withStore, Store.setOutage, Store.isDown] at same ⊢
      cases down <;> by_cases own : other = method <;> simp_all
  | drop flusher => cases visible

theorem alike_afterAll (alike : left.service.Alike right.service) (moves : List Move) :
    (left.afterAll moves).service.Alike
        (right.afterAll (moves.filter fun move => !move.flushes)).service ∧
      ∀ key, left.accepted key moves =
        right.accepted key (moves.filter fun move => !move.flushes) := by
  induction moves generalizing left right with
  | nil => exact ⟨alike, fun key => rfl⟩
  | cons move moves ih =>
      cases flushes : move.flushes with
      | true =>
          obtain ⟨unseen, none⟩ := left.alike_flushing flushes
          obtain ⟨rest, accepted⟩ := ih (unseen.symm.trans alike)
          simp only [List.filter_cons, flushes, Bool.not_true, Bool.false_eq_true, if_false]
          refine ⟨rest, fun key => ?_⟩
          rw [Pipeline.accepted, none, accepted, Nat.zero_add]
      | false =>
          obtain ⟨same, own⟩ := alike_after alike flushes
          obtain ⟨rest, accepted⟩ := ih same
          simp only [List.filter_cons, flushes, Bool.not_false, if_true]
          refine ⟨rest, fun key => ?_⟩
          rw [Pipeline.accepted, Pipeline.accepted, own, accepted]

end Pipeline

end UsageBilling
