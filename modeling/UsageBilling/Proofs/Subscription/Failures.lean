import UsageBilling.Proofs.Service.Rows
import UsageBilling.Proofs.Subscription.Operations
/-!
A request that fails leaves the service as it was, but for the row on the free plan that a tenant
without one is given. The trace of the request tells what it has done; what that has made of the
service is kept from action to action beside it.
-/
namespace UsageBilling

namespace Store

/-- The rows are those of before, or the tenant had none and has got one on the free plan. -/
inductive Spared (who : Option Uuid) (now : Instant) (before : List Subscription) :
    List Subscription → Prop
  | same : Spared who now before before
  | enrolled (id tenant : Uuid) (own : who = some tenant)
      (absent : ∀ row ∈ before, row.tenant ≠ tenant) :
      Spared who now before (before ++ [.freeTier id tenant now])

section

variable {α : Type} {store : Store} {fault : Fault}

theorem guarded_refused {method : Method} {run : Except Fault α × Store}
    (refused : (store.guarded method run).1 = .error fault)
    (otherwise : run.1 = .error fault → run.2 = store ∧ ¬ fault.IsPrecondition) :
    (store.guarded method run).2 = store ∧ ¬ fault.IsPrecondition := by
  cases down : store.isDown method with
  | true =>
      rw [guarded_error down] at refused ⊢
      obtain rfl : method.outage = fault := Except.error.inj refused
      exact ⟨rfl, by cases method <;> exact not_false⟩
  | false =>
      rw [guarded_ok down] at refused ⊢
      exact otherwise refused

theorem update_refused {tenant : Uuid} {change : Subscription → Subscription}
    (refused : (store.update tenant change).1 = .error fault) :
    (store.update tenant change).2 = store ∧ ¬ fault.IsPrecondition := by
  unfold update at refused ⊢
  cases found : store.rowOf? tenant with
  | none =>
      rw [found] at refused
      obtain rfl : missingRow = fault := Except.error.inj refused
      exact ⟨rfl, not_false⟩
  | some row =>
      rw [found] at refused
      cases refused

end

end Store

namespace Service

variable (service : Service) (answers : Provider.Answers) (action : Action)

theorem act_refused {fault : Fault}
    (refused : Performed.Refuses fault ⟨action, (service.act answers action).1⟩) :
    (service.act answers action).2.store = service.store ∧ ¬ fault.IsPrecondition := by
  cases action with
  | setProviderCustomer tenant customerId =>
      exact Store.guarded_refused refused Store.update_refused
  | applySnapshot tenant snapshot => exact Store.guarded_refused refused Store.update_refused
  | markCanceled tenant => exact Store.guarded_refused refused Store.update_refused
  | syncSnapshot snapshot =>
      refine Store.guarded_refused refused fun failed => ?_
      cases found : service.store.linkedRow? snapshot.providerId with
      | none =>
          rw [found] at failed
          cases failed
      | some row =>
          rw [found] at failed
          cases failed
  | _ => exact refused.elim

end Service

theorem Rewrites.refuses {now : Instant} {action : Action} {old row : Subscription}
    (rewrites : Rewrites now action old row) (reply : action.Reply)
    (unwritten : ¬ Performed.Writes ⟨action, reply⟩) :
    ∃ fault, Performed.Refuses fault ⟨action, reply⟩ := by
  cases rewrites <;> cases reply with
  | error fault => exact ⟨fault, rfl⟩
  | ok written => exact absurd trivial unwritten

theorem Service.act_unwritten (service : Service) (answers : Provider.Answers) (action : Action)
    (unwritten : ¬ Performed.Writes ⟨action, (service.act answers action).1⟩) :
    (service.act answers action).2.store.subscriptions = service.store.subscriptions ∨
    ∃ row, action = .insertIfAbsent row ∧
      (∀ other ∈ service.store.subscriptions, other.tenant ≠ row.tenant) ∧
      (service.act answers action).2.store.subscriptions = service.store.subscriptions ++ [row] := by
  have rowsAfter := service.act_rows answers action
  generalize same : (service.act answers action).2.store.subscriptions = after at rowsAfter
  cases rowsAfter with
  | same => exact .inl rfl
  | added row inserts absent => exact .inr ⟨row, inserts, absent, rfl⟩
  | written old row member rewrites =>
      obtain ⟨fault, refused⟩ := rewrites.refuses _ unwritten
      rw [← same, (service.act_refused answers action refused).1]
      exact .inl rfl

def Performed.IsAt (moment : Instant) : Performed → Prop
  | ⟨.now, now⟩ => now = moment
  | _ => True

structure Traced (who : Option Uuid) (before : Service) (trace : List Performed) (after : Service) :
    Prop where
  clock : after.clock = before.clock
  tracker : after.tracker = before.tracker
  usage : after.store.usage = before.store.usage
  rows : Unwritten trace →
    Store.Spared who before.clock before.store.subscriptions after.store.subscriptions
  calls : (∀ performed ∈ trace, ¬ performed.Asks) → after.calls = before.calls
  moments : ∀ performed ∈ trace, performed.IsAt before.clock
  refusals : ∀ fault, ∀ performed ∈ trace, performed.Refuses fault → ¬ fault.IsPrecondition

namespace Traced

variable {who : Option Uuid} {before service : Service} {trace : List Performed}

theorem start (who : Option Uuid) (service : Service) : Traced who service [] service where
  clock := rfl
  tracker := rfl
  usage := rfl
  rows := fun _ => .same
  calls := fun _ => rfl
  moments := by simp
  refusals := by simp

theorem act_frame (service : Service) (answers : Provider.Answers) {action : Action}
    (allowed : (operationRules who).allows trace action) :
    (service.act answers action).2.clock = service.clock ∧
    (service.act answers action).2.tracker = service.tracker ∧
    (service.act answers action).2.store.usage = service.store.usage := by
  by_cases own : ∀ call, action ≠ .ask call
  · have books : ∀ key quantity, action ≠ .track key quantity := by
      rintro key quantity rfl
      exact allowed
    have flushes : action ≠ .flush := by
      rintro rfl
      exact allowed
    have marks : ∀ ids usageId, action ≠ .markReported ids usageId := by
      rintro ids usageId rfl
      exact allowed
    have keeps := service.keepsUsage_perform action books flushes
    rw [service.act_own answers own]
    exact ⟨keeps.clock, keeps.tracker, service.usage_perform action books flushes marks⟩
  · push Not at own
    obtain ⟨call, rfl⟩ := own
    exact ⟨rfl, rfl, rfl⟩

theorem act_rows (traced : Traced who before trace service) (answers : Provider.Answers)
    {action : Action} (allowed : (operationRules who).allows trace action)
    (unwritten : Unwritten (trace ++ [⟨action, (service.act answers action).1⟩])) :
    Store.Spared who before.clock before.store.subscriptions
      (service.act answers action).2.store.subscriptions := by
  have earlier := traced.rows fun performed member => unwritten performed (List.mem_append_left _ member)
  have last := unwritten _ List.mem_concat_self
  rcases service.act_unwritten answers action last with same | ⟨row, rfl, absent, added⟩
  · rwa [same]
  · obtain ⟨id, tenant, now, rfl, rfl, read⟩ := allowed
    obtain rfl : now = before.clock := traced.moments _ read
    rw [added]
    generalize service.store.subscriptions = rows at earlier absent
    cases earlier with
    | same => exact .enrolled id tenant rfl absent
    | enrolled other again own missing =>
        -- The tenant that was given a row is the one that has none now.
        obtain rfl : tenant = again := Option.some.inj own
        exact absurd rfl (absent (.freeTier other tenant before.clock) List.mem_concat_self)

theorem act_calls (service : Service) (answers : Provider.Answers) {action : Action}
    (allowed : (operationRules who).allows trace action)
    (silent : ¬ Performed.Asks ⟨action, (service.act answers action).1⟩) :
    (service.act answers action).2.calls = service.calls := by
  cases action with
  | ask call => exact absurd trivial silent
  | track key quantity => exact allowed.elim
  | flush => exact allowed.elim
  | _ => rfl

theorem act (traced : Traced who before trace service) (answers : Provider.Answers) {action : Action}
    (allowed : (operationRules who).allows trace action) :
    Traced who before (trace ++ [⟨action, (service.act answers action).1⟩])
      (service.act answers action).2 := by
  obtain ⟨clock, tracker, usage⟩ := act_frame service answers allowed
  refine ⟨clock.trans traced.clock, tracker.trans traced.tracker, usage.trans traced.usage,
    traced.act_rows answers allowed, fun unasked => ?_, fun performed member => ?_,
    fun fault performed member refuses => ?_⟩
  · have earlier := traced.calls fun performed member => unasked performed (List.mem_append_left _ member)
    exact (act_calls service answers allowed (unasked _ List.mem_concat_self)).trans earlier
  · rcases List.mem_append.mp member with earlier | last
    · exact traced.moments performed earlier
    · rw [List.mem_singleton.mp last]
      cases action with
      | now => exact traced.clock
      | _ => trivial
  · rcases List.mem_append.mp member with earlier | last
    · exact traced.refusals fault performed earlier refuses
    · rw [List.mem_singleton.mp last] at refuses
      exact (service.act_refused answers action refuses).2

end Traced

structure LeftAlone (who : Option Uuid) (fault : Fault) (before after : Service) : Prop where
  rows : Store.Spared who before.clock before.store.subscriptions after.store.subscriptions
  usage : after.store.usage = before.store.usage
  tracker : after.tracker = before.tracker
  unasked : fault.IsPrecondition → after.calls = before.calls

theorem Traced.leftAlone {who : Option Uuid} {before after : Service} {trace : List Performed}
    {fault : Fault} (traced : Traced who before trace after) (spares : Spares fault trace) :
    LeftAlone who fault before after where
  rows := traced.rows spares.unwritten
  usage := traced.usage
  tracker := traced.tracker
  unasked := by
    intro precondition
    rcases spares.precondition precondition with idle | ⟨performed, member, refuses⟩
    · exact traced.calls idle.unasked
    · exact absurd precondition (traced.refusals fault performed member refuses)

/-- Whatever is stored, sold, answered and asked for, a request that fails has written over no row and
has added at most one, on the free plan, for a tenant that had none. No usage is touched. If it fails
for what was missing beforehand, the provider has not been asked anything. -/
theorem Pool.Request.failed_leftAlone (catalog : Catalog) (request : Pool.Request) (service : Service)
    (answers : Provider.Answers) (fault : Fault)
    (failed : request.fault? ((request.program catalog).runWith answers service).1 = some fault) :
    LeftAlone request.tenant? fault service ((request.program catalog).runWith answers service).2 := by
  obtain ⟨trace, spares, traced⟩ := (request.conducts catalog).runWith
    (fun trace service action allowed traced => Traced.act traced answers allowed)
    (Traced.start request.tenant? service)
  exact traced.leftAlone (spares fault failed)

/-- A tenant without a row cannot subscribe, since it is no customer. -/
theorem Pool.Request.failed_leftAlone_newcomer :
    let request := Pool.Request.subscribe ⟨7⟩ "pro" none
    let service : Service := { clock := ⟨1700000000, 0⟩ }
    let ended := (request.program default).runWith (fun _ => .error .notConfigured) service
    request.fault? ended.1 = some Lifecycle.missingCustomer ∧
      LeftAlone (some ⟨7⟩) Lifecycle.missingCustomer service ended.2 := by
  intro request service ended
  have failed : request.fault? ended.1 = some Lifecycle.missingCustomer := by rfl
  exact ⟨failed, request.failed_leftAlone default service _ _ failed⟩

end UsageBilling
