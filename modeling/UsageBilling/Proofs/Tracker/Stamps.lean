import UsageBilling.Proofs.Time.Months
import UsageBilling.Proofs.Tracker.Conservation
/-!
The tracker at work while the clock stands still and no method of the store but the writing of usage is
ever off. Rows are only added, and the period on each of them holds the present moment, whatever
becomes of the subscriptions in between.
-/
namespace UsageBilling

structure Service.Steady (before after : Service) : Prop where
  clock : after.clock = before.clock
  outages : ∀ method, method ≠ Store.Method.insertUsage →
    after.store.isDown method = before.store.isDown method
  contents : before.store.contents <+: after.store.contents
  batches : before.store.batches ≤ after.store.batches
  /-- Where no batch was written there is no new row. -/
  unwritten : after.store.batches = before.store.batches →
    after.store.contents = before.store.contents

namespace Service

variable {service before between after : Service}

theorem Steady.refl (service : Service) : Steady service service :=
  ⟨rfl, fun _ _ => rfl, List.prefix_refl _, Nat.le_refl _, fun _ => rfl⟩

theorem Steady.trans (first : Steady before between) (second : Steady between after) :
    Steady before after := by
  refine ⟨second.clock.trans first.clock, ?_, first.contents.trans second.contents,
    Nat.le_trans first.batches second.batches, ?_⟩
  · intro method other
    rw [second.outages method other, first.outages method other]
  · intro same
    have left := first.batches
    have right := second.batches
    rw [second.unwritten (by omega), first.unwritten (by omega)]

theorem KeepsUsage.steady (keeps : KeepsUsage before after) : Steady before after := by
  obtain ⟨_, store, clock⟩ := keeps
  refine ⟨clock, ?_, ?_, ?_, fun _ => store.contents⟩
  · intro method _
    unfold Store.isDown
    rw [store.outages]
  · exact ⟨[], by rw [List.append_nil, store.contents]⟩
  · rw [store.batches]

theorem steady_of_store (store : after.store = before.store) (clock : after.clock = before.clock) :
    Steady before after := by
  refine ⟨clock, ?_, ⟨[], ?_⟩, ?_, ?_⟩
  · intro method _
    rw [store]
  · rw [List.append_nil, store]
  · rw [store]
  · intro _
    rw [store]

theorem steady_endFlush (service : Service) (trigger : Trigger) (records : List NewUsage) :
    Steady service (service.endFlush trigger records).2 := by
  rcases service.endFlush_cases trigger records with ⟨_, _, _, store, clock⟩ | ⟨_, _, _, store, clock⟩
  · refine ⟨clock, ?_, ?_, ?_, ?_⟩ <;> rw [store]
    · exact fun _ _ => rfl
    · rw [Store.contents_appendUsage]
      exact List.prefix_append _ _
    · exact Nat.le_succ _
    · intro same
      exact absurd same (Nat.succ_ne_self _)
  · exact steady_of_store store clock

theorem steady_stepFlush (service : Service) (trigger : Trigger) (stage : Flush) :
    Steady service (service.stepFlush trigger stage).2 := by
  cases stage with
  | queued =>
      unfold stepFlush
      dsimp only
      split <;> exact steady_of_store rfl rfl
  | stamping now records rest => cases rest <;> exact .refl service
  | writing records => exact steady_endFlush service trigger records

theorem steady_track (service : Service) (key : UsageKey) (quantity : Nat) :
    Steady service (service.track key quantity).2 := by
  rcases service.track_cases key quantity with ⟨_, idle⟩ | ⟨_, _, idle⟩ | ⟨_, _, _, _, store, clock⟩
  · rw [idle]
    exact .refl service
  · rw [idle]
    exact .refl service
  · exact steady_of_store store clock

end Service

/-- The clock stands still, and no method but the writing of usage is switched. -/
def Move.Calm : Move → Prop
  | .clock _ => False
  | .switch method _ => method = .insertUsage
  | _ => True

instance (move : Move) : Decidable move.Calm :=
  match move with
  | .clock _ => isFalse id
  | .switch method _ => inferInstanceAs (Decidable (method = .insertUsage))
  | .event _ | .act _ | .drop _ | .put _ | .backend _ => isTrue trivial

namespace Pipeline

variable {pipeline : Pipeline}

theorem steady_work (pipeline : Pipeline) :
    pipeline.service.Steady (pipeline.perform .work).2.service := by
  rcases pipeline.work_cases with ⟨_, idle⟩ | ⟨job, rest, _, service, _⟩
  · rw [idle]
    exact .refl _
  · rw [service]
    exact Service.steady_stepFlush _ _ _

theorem steady_after (pipeline : Pipeline) {move : Move} (calm : move.Calm) :
    pipeline.service.Steady (pipeline.after move).service := by
  cases move with
  | event event =>
      rcases pipeline.perform_cases event with ⟨key, quantity, rfl, result⟩ | rfl | ⟨_, reorders⟩
      · exact Service.steady_track _ _ _
      · exact pipeline.steady_work
      · obtain ⟨wakeup, closed, service⟩ := reorders.service
        have same : (pipeline.after (.event event)).service = (pipeline.perform event).2.service := rfl
        rw [same, service]
        exact Service.steady_of_store rfl rfl
  | act action =>
      rcases pipeline.after_act_cases action with ⟨key, quantity, rfl⟩ | rfl | ⟨_, result, keeps⟩
      · exact Service.steady_track _ _ _
      · exact .refl _
      · rw [result]
        exact keeps.steady
  | drop flusher => cases flusher <;> exact .refl _
  | put row => exact ⟨rfl, fun _ _ => rfl, List.prefix_refl _, Nat.le_refl _, fun _ => rfl⟩
  | switch method down =>
      refine ⟨rfl, ?_, List.prefix_refl _, Nat.le_refl _, fun _ => rfl⟩
      intro other different
      have apart : other ≠ method := fun same => different (same.trans calm)
      cases down <;> simp [after, withStore, Store.setOutage, Store.isDown, apart]
  | clock now => exact calm.elim
  | backend backend => exact Service.steady_of_store rfl rfl

theorem steady_afterAll (pipeline : Pipeline) {moves : List Move} (calm : ∀ move ∈ moves, move.Calm) :
    pipeline.service.Steady (pipeline.afterAll moves).service := by
  induction moves generalizing pipeline with
  | nil => exact .refl _
  | cons move moves ih =>
      have first := pipeline.steady_after (calm move List.mem_cons_self)
      exact first.trans (ih _ fun other member => calm other (List.mem_cons_of_mem move member))

end Pipeline

def Flush.Stamped (clock : Instant) : Flush → Prop
  | .queued => True
  | .stamping now records _ => now = clock ∧ ∀ record ∈ records, record.period.contains clock = true
  | .writing records => ∀ record ∈ records, record.period.contains clock = true

structure Service.Stamped (service : Service) (stage : Flush) : Prop where
  rows : ∀ content ∈ service.store.contents, content.2.1.period.contains service.clock = true
  stage : stage.Stamped service.clock

/-- Only rows of the present were added, and the flush at this stage is one of the present. -/
structure Service.Stamps (before after : Service) (stage : Flush) : Prop where
  stage : stage.Stamped before.clock
  rows : ∃ more, after.store.contents = before.store.contents ++ more ∧
    ∀ content ∈ more, content.2.1.period.contains before.clock = true

namespace Service

variable {service : Service} {stage : Flush}

theorem stamps_of_contents {after : Service} (own : stage.Stamped service.clock)
    (same : after.store.contents = service.store.contents) : Stamps service after stage :=
  ⟨own, [], by rw [same, List.append_nil], by simp⟩

theorem periodAt_contains (service : Service) (tenant : Uuid) {moment : Instant}
    (before : moment.BeforeLastMonth) : (service.periodAt tenant moment).contains moment = true := by
  unfold periodAt
  split
  · exact Period.ofSubscription_contains before _
  · exact Period.calendarMonth_contains before

theorem stamp_contains {records : List NewUsage} {moment : Instant} (before : moment.BeforeLastMonth)
    (stamped : ∀ record ∈ records, record.period.contains moment = true) (entry : UsageKey × Int) :
    (service.stamp moment records entry).period.contains moment = true := by
  simp only [stamp]
  cases known : records.find? fun record => record.tenant = entry.1.tenant with
  | none => exact periodAt_contains service _ before
  | some record => exact stamped record (List.mem_of_find?_eq_some known)

theorem stepFlush_stamps (trigger : Trigger) (before : service.clock.BeforeLastMonth)
    (own : stage.Stamped service.clock) :
    Stamps service (service.stepFlush trigger stage).2 (service.stepFlush trigger stage).1.stage := by
  cases stage with
  | queued =>
      unfold stepFlush
      dsimp only
      split
      · exact stamps_of_contents trivial rfl
      · exact stamps_of_contents ⟨rfl, by simp⟩ rfl
  | stamping now records rest =>
      obtain ⟨rfl, periods⟩ := own
      cases rest with
      | nil => exact stamps_of_contents periods rfl
      | cons entry rest =>
          refine stamps_of_contents ⟨rfl, ?_⟩ rfl
          intro record member
          rcases List.mem_append.mp member with earlier | last
          · exact periods record earlier
          · rw [List.mem_singleton.mp last]
            exact stamp_contains before periods entry
  | writing records =>
      rcases service.endFlush_cases trigger records with ⟨_, _, _, store, _⟩ | ⟨_, _, _, store, _⟩
      · refine ⟨trivial, _, (congrArg Store.contents store).trans (Store.contents_appendUsage _ _ _), ?_⟩
        intro content fresh
        obtain ⟨entry, found, rfl⟩ := List.mem_map.mp fresh
        have listed : entry.2 ∈ records :=
          zip_drawMany service.ids records ▸ List.mem_map_of_mem found
        exact own entry.2 listed
      · exact stamps_of_contents trivial (congrArg Store.contents store)

end Service

namespace Pipeline

variable {pipeline : Pipeline}

theorem stamps_work (exclusive : pipeline.Exclusive) (before : pipeline.service.clock.BeforeLastMonth)
    (own : pipeline.stage.Stamped pipeline.service.clock) :
    pipeline.service.Stamps (pipeline.perform .work).2.service (pipeline.perform .work).2.stage := by
  rcases pipeline.work_cases with ⟨_, idle⟩ | ⟨job, rest, jobs, service, running⟩
  · rw [idle]
    exact Service.stamps_of_contents own rfl
  · have stepped := Service.stepFlush_stamps job.trigger before (stage_of_cons jobs ▸ own)
    rw [← service] at stepped
    rcases running with ⟨next, step, queue⟩ | ⟨result, step, queue⟩
    · rw [step] at stepped
      rw [stage_of_cons queue]
      exact stepped
    · rw [step] at stepped
      rw [exclusive.stage_of_done jobs queue]
      exact stepped

theorem stamps_after (exclusive : pipeline.Exclusive)
    (before : pipeline.service.clock.BeforeLastMonth)
    (own : pipeline.stage.Stamped pipeline.service.clock) (move : Move) :
    pipeline.service.Stamps (pipeline.after move).service (pipeline.after move).stage := by
  rcases pipeline.after_cases move with ⟨key, quantity, result, _⟩ | ⟨rfl, _⟩ |
    ⟨reorders | surrounds, _⟩
  · rw [result]
    exact Service.stamps_of_contents own
      (congrArg Store.contents (pipeline.service.store_track key quantity))
  · exact stamps_work exclusive before own
  · obtain ⟨wakeup, closed, service⟩ := reorders.service
    refine Service.stamps_of_contents ?_ (by rw [service])
    rcases reorders.stage exclusive with kept | queued
    · rwa [kept]
    · rw [queued]
      trivial
  · exact Service.stamps_of_contents (by rwa [surrounds.stage]) surrounds.contents

theorem stamped_after (exclusive : pipeline.Exclusive)
    (before : pipeline.service.clock.BeforeLastMonth)
    (stamped : pipeline.service.Stamped pipeline.stage) {move : Move}
    (clock : (pipeline.after move).service.clock = pipeline.service.clock) :
    (pipeline.after move).service.Stamped (pipeline.after move).stage := by
  have stamps := stamps_after exclusive before stamped.stage move
  refine ⟨fun content member => ?_, by rw [clock]; exact stamps.stage⟩
  obtain ⟨more, contents, present⟩ := stamps.rows
  rw [clock]
  rw [contents] at member
  exact (List.mem_append.mp member).elim (stamped.rows content) (present content)

structure Present (pipeline : Pipeline) : Prop where
  balanced : pipeline.Balanced
  stamped : pipeline.service.Stamped pipeline.stage
  before : pipeline.service.clock.BeforeLastMonth

theorem Fresh.present (fresh : pipeline.Fresh) (before : pipeline.service.clock.BeforeLastMonth) :
    pipeline.Present := by
  refine ⟨fresh.balanced, ⟨?_, ?_⟩, before⟩
  · simp [Store.contents, fresh.usage]
  · rw [stage_of_nil fresh.jobs]
    trivial

theorem Present.after (present : pipeline.Present) {move : Move}
    (clock : (pipeline.after move).service.clock = pipeline.service.clock) :
    (pipeline.after move).Present := by
  obtain ⟨balanced, stamped, before⟩ := present
  exact ⟨(after_balanced balanced move).1, stamped_after balanced.exclusive before stamped clock,
    clock ▸ before⟩

theorem Present.afterAll (present : pipeline.Present) {moves : List Move}
    (calm : ∀ move ∈ moves, move.Calm) : (pipeline.afterAll moves).Present :=
  afterAll_induction present moves fun pipeline move member holds =>
    holds.after (pipeline.steady_after (calm move member)).clock

theorem Present.sum_quantitiesAt (present : pipeline.Present) (key : UsageKey) :
    Quantity.sum (pipeline.service.store.quantitiesAt key.tenant key.metric pipeline.service.clock) =
      min (pipeline.service.store.stored key) Quantity.greatest := by
  have all : pipeline.service.store.quantitiesAt key.tenant key.metric pipeline.service.clock =
      (pipeline.service.store.usage.filter fun row =>
        row.tenant = key.tenant && row.metric = key.metric.name).map (·.quantity) := by
    unfold Store.quantitiesAt
    congr 1
    apply List.filter_congr
    intro row member
    have holds : row.period.contains pipeline.service.clock = true :=
      present.stamped.rows row.content (List.mem_map_of_mem member)
    rw [holds, Bool.and_true]
  rw [Quantity.sum_of_nonneg _ (present.balanced.service.quantitiesAt_nonneg key _), all]
  rfl

end Pipeline

end UsageBilling
