import UsageBilling.Proofs.Http.Confinement
import UsageBilling.Proofs.Limits.Counting
import UsageBilling.Proofs.Service.Rows
import UsageBilling.Proofs.Tracker.Sweeping
/-!
What a limit check of one tenant depends on: the clock, the methods of the store that are off, the
tenant's own row, and the usage of the tenant that counts at the present moment. Calls for another
tenant leave all of it alone, and so do the tasks of the tracker, as long as the clock stands still and
the flush under way is one of the present.
-/
namespace UsageBilling

open Quantity

namespace Store

variable {store before after : Store}

def rowsOf (store : Store) (tenant : Uuid) : List Subscription :=
  store.subscriptions.filter fun row => row.tenant = tenant

theorem rowOf?_eq_head? (store : Store) (tenant : Uuid) :
    store.rowOf? tenant = (store.rowsOf tenant).head? :=
  (List.head?_filter ..).symm

/-- The exact sum of the stored amounts of a key whose periods hold the moment. -/
def storedAt (store : Store) (key : UsageKey) (moment : Instant) : Int :=
  (store.quantitiesAt key.tenant key.metric moment).sum

theorem storedAt_eq_sum_contents (store : Store) (key : UsageKey) (moment : Instant) :
    store.storedAt key moment = ((store.contents.filter fun content =>
      content.2.1.tenant = key.tenant && content.2.1.metric = key.metric.name &&
        content.2.1.period.contains moment).map fun content => content.2.2).sum := by
  rw [storedAt, quantitiesAt_eq_contents]

theorem storedAt_append {more : List (Uuid × GroupKey × Int)} {moment : Instant}
    (contents : after.contents = before.contents ++ more)
    (present : ∀ content ∈ more, content.2.1.period.contains moment = true) (key : UsageKey) :
    after.storedAt key moment - before.storedAt key moment = after.stored key - before.stored key := by
  have all : (more.filter fun content => content.2.1.tenant = key.tenant &&
      content.2.1.metric = key.metric.name && content.2.1.period.contains moment) =
      more.filter fun content =>
        content.2.1.tenant = key.tenant && content.2.1.metric = key.metric.name := by
    apply List.filter_congr
    intro content member
    rw [present content member, Bool.and_true]
  rw [storedAt_eq_sum_contents, storedAt_eq_sum_contents, stored_eq_sum_contents,
    stored_eq_sum_contents, contents, List.filter_append, List.filter_append, all, List.map_append,
    List.map_append, List.sum_append, List.sum_append]
  omega

theorem storedAt_appendUsage (store : Store) (usages : List (Uuid × NewUsage)) (now : Instant)
    (key : UsageKey) (moment : Instant) :
    (store.appendUsage usages now).storedAt key moment = store.storedAt key moment +
      (((usages.map Prod.snd).filter fun record => record.tenant = key.tenant &&
        record.metric.name = key.metric.name && record.period.contains moment).map
          (·.quantity)).sum := by
  rw [storedAt_eq_sum_contents, storedAt_eq_sum_contents, contents_appendUsage, List.filter_append,
    List.map_append, List.sum_append, List.filter_map, List.filter_map, List.map_map, List.map_map]
  rfl

end Store

namespace Service

/-- The two services are the same to a tenant, apart from usage. -/
structure SameTo (tenant : Uuid) (left right : Service) : Prop where
  clock : left.clock = right.clock
  closed : left.tracker.closed = right.tracker.closed
  outages : left.store.outages = right.store.outages
  rows : left.store.rowsOf tenant = right.store.rowsOf tenant

/-- All units of a key that a check counts at the present moment, if they are fewer than the greatest
amount. -/
def countable (service : Service) (key : UsageKey) : Int :=
  service.store.storedAt key service.clock + service.unstored key

variable {tenant : Uuid} {left right third service after : Service} {stage next : Flush}

theorem SameTo.refl (tenant : Uuid) (service : Service) : service.SameTo tenant service :=
  ⟨rfl, rfl, rfl, rfl⟩

theorem SameTo.symm (same : left.SameTo tenant right) : right.SameTo tenant left :=
  ⟨same.clock.symm, same.closed.symm, same.outages.symm, same.rows.symm⟩

theorem SameTo.trans (first : left.SameTo tenant right) (second : right.SameTo tenant third) :
    left.SameTo tenant third :=
  ⟨first.clock.trans second.clock, first.closed.trans second.closed,
    first.outages.trans second.outages, first.rows.trans second.rows⟩

theorem SameTo.isDown (same : left.SameTo tenant right) (method : Store.Method) :
    left.store.isDown method = right.store.isDown method := by
  unfold Store.isDown
  rw [same.outages]

theorem SameTo.findByTenant (same : left.SameTo tenant right) :
    left.store.findByTenant tenant = right.store.findByTenant tenant := by
  unfold Store.findByTenant Store.guarded
  rw [same.isDown, Store.rowOf?_eq_head?, Store.rowOf?_eq_head?, same.rows]
  split <;> rfl

/-- A check that runs alone sees the usage that counts, and beyond that only what is the same to its
tenant. -/
theorem SameTo.run_check (same : left.SameTo tenant right)
    (counts : ∀ metric, left.countedUsage ⟨tenant, metric⟩ = right.countedUsage ⟨tenant, metric⟩)
    (catalog : Catalog) (metricName : String) :
    ((LimitCheck.check catalog tenant metricName).outcome.run left).1 =
      ((LimitCheck.check catalog tenant metricName).outcome.run right).1 := by
  cases known : Metric.ofName? metricName with
  | none =>
      unfold LimitCheck.check
      rw [known]
      rfl
  | some metric =>
      obtain rfl : metric.name = metricName := by
        have found := List.find?_some known
        exact eq_of_beq found
      rw [UsageBilling.run_check left catalog ⟨tenant, metric⟩,
        UsageBilling.run_check right catalog ⟨tenant, metric⟩]
      unfold checkAnswer Store.termsOf
      rw [counts, same.isDown, same.isDown, same.findByTenant]

theorem storedAt_nonneg (balanced : service.Balanced stage) (key : UsageKey) (moment : Instant) :
    0 ≤ service.store.storedAt key moment :=
  List.sum_nonneg (balanced.quantitiesAt_nonneg key moment)

theorem countedUsage_eq_min (balanced : service.Balanced stage) (key : UsageKey) :
    service.countedUsage key = min (service.countable key) greatest := by
  have pending := Tracker.pending_eq_min ⟨balanced.live, balanced.inflight⟩ key
  have stored := storedAt_nonneg balanced key service.clock
  have live := (Buffer.get_bounds balanced.live key).1
  have inflight := (Buffer.get_bounds balanced.inflight key).1
  rw [countedUsage, sum_of_nonneg _ (balanced.quantitiesAt_nonneg key _), pending]
  exact add_cutOff stored (by omega)

theorem Stamps.countable {brings : UsageKey → Nat} (stamps : service.Stamps after next)
    (conserves : service.Conserves after brings) (clock : after.clock = service.clock)
    (balanced : service.Balanced stage) (key : UsageKey) :
    Carries (service.countable key) (brings key) (after.countable key) := by
  obtain ⟨more, contents, present⟩ := stamps.rows
  have grown := Store.storedAt_append contents present key
  have nonneg := storedAt_nonneg balanced key service.clock
  obtain ⟨upper, lower⟩ := conserves.carries key
  unfold Service.countable
  rw [clock]
  constructor <;> omega

end Service

namespace Pipeline

variable {pipeline : Pipeline}

/-- The books of a tracker whose flush under way is one of the present. -/
structure Timely (pipeline : Pipeline) : Prop where
  balanced : pipeline.Balanced
  stage : pipeline.stage.Stamped pipeline.service.clock
  before : pipeline.service.clock.BeforeLastMonth

theorem Timely.after (timely : pipeline.Timely) {move : Move} (calm : move.Calm) :
    (pipeline.after move).Timely := by
  obtain ⟨balanced, stage, before⟩ := timely
  have clock := (pipeline.steady_after calm).clock
  have stamps := stamps_after balanced.exclusive before stage move
  exact ⟨(after_balanced balanced move).1, by rw [clock]; exact stamps.stage, by rwa [clock]⟩

theorem Timely.countable (timely : pipeline.Timely) {move : Move} (calm : move.Calm) (key : UsageKey) :
    Carries (pipeline.service.countable key) (pipeline.accepts key move)
      ((pipeline.after move).service.countable key) :=
  (stamps_after timely.balanced.exclusive timely.before timely.stage move).countable
    (after_buffered timely.balanced.buffered move).2 (pipeline.steady_after calm).clock
    timely.balanced.service key

end Pipeline

namespace Move

/-- A move of the tasks of the tracker or of the provider, or one that lets the writing of usage fail. -/
def IsBackground : Move → Prop
  | .event (.track ..) | .act _ | .put _ | .clock _ => False
  | .switch method _ => method = .insertUsage
  | .event _ | .drop _ | .backend _ => True

def IsFor (tenant : Uuid) : Move → Prop
  | .act action => action.IsFor tenant
  | .event (.flush _) => True
  | _ => False

variable {tenant : Uuid} {move : Move}

theorem IsBackground.calm (background : move.IsBackground) : move.Calm := by
  cases move with
  | switch method down => exact background
  | clock now => exact background.elim
  | _ => trivial

theorem IsFor.calm (own : move.IsFor tenant) : move.Calm := by
  cases move with
  | switch method down => exact own.elim
  | clock now => exact own.elim
  | _ => trivial

theorem IsBackground.accepts (background : move.IsBackground) (pipeline : Pipeline) (key : UsageKey) :
    pipeline.accepts key move = 0 := by
  cases move with
  | event event =>
      cases event with
      | track key quantity => exact background.elim
      | _ => rfl
  | act action => exact background.elim
  | _ => rfl

theorem IsFor.accepts (own : move.IsFor tenant) (pipeline : Pipeline) {key : UsageKey}
    (apart : tenant ≠ key.tenant) : pipeline.accepts key move = 0 := by
  cases move with
  | event event =>
      cases event with
      | track key quantity => exact own.elim
      | _ => rfl
  | act action =>
      cases action with
      | track tracked quantity =>
          refine if_neg fun accepted => apart ?_
          rw [← accepted.1]
          exact own.symm
      | _ => rfl
  | _ => rfl

end Move

theorem Store.filter_putRow {row : Subscription} {tenant : Uuid} (apart : row.tenant ≠ tenant)
    (rows : List Subscription) :
    ((putRow row rows).filter fun other => other.tenant = tenant) =
      rows.filter fun other => other.tenant = tenant := by
  induction rows with
  | nil => simp [putRow, apart]
  | cons head rows ih =>
      unfold putRow
      split
      · next same => simp [apart, same]
      · rw [List.filter_cons, List.filter_cons, ih]

theorem RowsAfter.filter_other {now : Instant} {rows after : List Subscription} {action : Action}
    {tenant other : Uuid} (rowsAfter : RowsAfter now rows action after) (own : action.IsFor tenant)
    (apart : tenant ≠ other) :
    (after.filter fun row => row.tenant = other) = rows.filter fun row => row.tenant = other := by
  cases rowsAfter with
  | same => rfl
  | added row inserts absent =>
      subst inserts
      obtain rfl : row.tenant = tenant := own
      simp [List.filter_append, apart]
  | written old row member rewrites =>
      have owned : old.tenant = tenant := by
        cases rewrites with
        | customer _ customerId => exact own
        | snapshot _ snapshot => exact own
        | sync _ snapshot linked => exact own.elim
        | cancel => exact own
      apply Store.filter_putRow
      rwa [rewrites.tenant, owned]

namespace Service

variable {tenant other : Uuid} {left right service : Service}

theorem rowsOf_perform (service : Service) {action : Action} (own : action.IsFor tenant)
    (apart : tenant ≠ other) :
    (service.perform action).2.store.rowsOf other = service.store.rowsOf other := by
  by_cases asks : ∃ call, action = .ask call
  · obtain ⟨call, rfl⟩ := asks
    simp only [perform, ask]
    split <;> rfl
  · have notAsked : ∀ call, action ≠ .ask call := fun call same => asks ⟨call, same⟩
    -- Whatever the provider would answer, it is not asked.
    have rows := service.act_rows (fun _ => .error .notConfigured) action
    rw [act_own service _ notAsked] at rows
    exact rows.filter_other own apart

end Service

namespace Pipeline

variable {tenant other : Uuid} {left right : Pipeline} {move : Move}

theorem outages_after (pipeline : Pipeline) (still : ∀ method down, move ≠ .switch method down) :
    (pipeline.after move).service.store.outages = pipeline.service.store.outages := by
  cases move with
  | event event =>
      rcases pipeline.perform_cases event with ⟨key, quantity, rfl, _⟩ | rfl | ⟨_, reorders⟩
      · exact congrArg Store.outages (pipeline.service.store_track key quantity)
      · rcases pipeline.work_cases with ⟨_, idle⟩ | ⟨job, rest, _, service, _⟩
        · exact congrArg (·.service.store.outages) idle
        · exact (congrArg (·.store.outages) service).trans (Service.sameButUsage_stepFlush _ _ _).outages
      · obtain ⟨wakeup, closed, service⟩ := reorders.service
        exact congrArg (·.store.outages) service
  | act action =>
      rcases pipeline.after_act_cases action with ⟨key, quantity, rfl⟩ | rfl | ⟨_, result, keeps⟩
      · exact congrArg Store.outages (pipeline.service.store_track key quantity)
      · rfl
      · rw [result]
        exact keeps.store.outages
  | drop flusher => cases flusher <;> rfl
  | switch method down => exact absurd rfl (still method down)
  | _ => rfl

theorem rows_background (pipeline : Pipeline) (background : move.IsBackground) :
    (pipeline.after move).service.store.subscriptions = pipeline.service.store.subscriptions := by
  by_cases flushes : move.flushes = true
  · exact (pipeline.alike_flushing flushes).1.subscriptions.symm
  · cases move with
    | event event =>
        cases event with
        | track key quantity => exact background.elim
        | close =>
            rw [after_event, service_close]
        | _ => exact absurd rfl flushes
    | backend backend => rfl
    | switch method down =>
        obtain rfl : method = .insertUsage := background
        exact absurd rfl flushes
    | drop flusher => exact absurd rfl flushes
    | _ => exact background.elim

theorem sameTo_background (same : left.service.SameTo tenant right.service)
    (background : move.IsBackground) :
    (left.after move).service.SameTo tenant (right.after move).service := by
  refine ⟨?_, ?_, ?_, ?_⟩
  · rw [(left.steady_after background.calm).clock, (right.steady_after background.calm).clock,
      same.clock]
  · rw [Bool.eq_iff_iff, closed_after, closed_after, same.closed]
  · by_cases still : ∀ method down, move ≠ .switch method down
    · rw [outages_after left still, outages_after right still, same.outages]
    · obtain ⟨method, down, rfl⟩ : ∃ method down, move = .switch method down := by
        simpa only [not_forall, not_not, ne_eq] using still
      change (left.service.store.setOutage method down).outages =
        (right.service.store.setOutage method down).outages
      unfold Store.setOutage
      rw [same.outages]
  · have rows := same.rows
    unfold Store.rowsOf at rows ⊢
    rw [rows_background left background, rows_background right background, rows]

theorem sameTo_own (pipeline : Pipeline) (own : move.IsFor tenant) (apart : tenant ≠ other) :
    pipeline.service.SameTo other (pipeline.after move).service := by
  have still : ∀ method down, move ≠ .switch method down := by
    rintro method down rfl
    exact own
  refine ⟨(pipeline.steady_after own.calm).clock.symm, ?_, (outages_after pipeline still).symm, ?_⟩
  · have closing : move ≠ .event .close := by
      rintro rfl
      exact own
    rw [Bool.eq_iff_iff, closed_after, or_iff_left closing]
  · cases move with
    | act action =>
        by_cases flushes : action = .flush
        · subst flushes
          rfl
        · rw [pipeline.after_act flushes]
          exact (pipeline.service.rowsOf_perform own apart).symm
    | event event =>
        cases event with
        | flush caller => rfl
        | _ => exact own.elim
    | _ => exact own.elim

end Pipeline

end UsageBilling
