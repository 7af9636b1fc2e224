import UsageBilling.Proofs.Limits.Neighbours
/-!
Two runs side by side. Both see the same tasks of the tracker, outages and providers, and one of them
carries out actions for a tenant besides, and begins flushes. To any other tenant the two stay level: a
check of its limits counts the same in both. A flush that was under way from the start may bear periods
of the past. It is the same flush in both runs, and moves on in both until it ends.
-/
namespace UsageBilling

open Quantity

def recordsOf (tenant : Uuid) (records : List NewUsage) : List NewUsage :=
  records.filter fun record => record.tenant = tenant

/-- Two flushes past their snapshot that have come equally far, with the same amounts still to stamp,
and the same stamped for the tenant. -/
inductive Flush.AgreesOn (tenant : Uuid) : Flush → Flush → Prop
  | stamping (now : Instant) (rest : Buffer) {records others : List NewUsage}
      (same : recordsOf tenant records = recordsOf tenant others) :
      AgreesOn tenant (.stamping now records rest) (.stamping now others rest)
  | writing {records others : List NewUsage} (same : recordsOf tenant records = recordsOf tenant others) :
      AgreesOn tenant (.writing records) (.writing others)

namespace Service

/-- The two services hold the same amounts of a tenant, in the same places. -/
structure SameAmounts (tenant : Uuid) (left right : Service) : Prop where
  stored : ∀ metric moment,
    left.store.storedAt ⟨tenant, metric⟩ moment = right.store.storedAt ⟨tenant, metric⟩ moment
  live : ∀ metric, left.tracker.live.get ⟨tenant, metric⟩ = right.tracker.live.get ⟨tenant, metric⟩
  inflight : ∀ metric,
    left.tracker.inflight.get ⟨tenant, metric⟩ = right.tracker.inflight.get ⟨tenant, metric⟩

variable {tenant : Uuid} {left right third service : Service} {stage other : Flush}

theorem SameAmounts.refl (tenant : Uuid) (service : Service) : service.SameAmounts tenant service :=
  ⟨fun _ _ => rfl, fun _ => rfl, fun _ => rfl⟩

theorem SameAmounts.symm (amounts : left.SameAmounts tenant right) : right.SameAmounts tenant left :=
  ⟨fun metric moment => (amounts.stored metric moment).symm, fun metric => (amounts.live metric).symm,
    fun metric => (amounts.inflight metric).symm⟩

theorem SameAmounts.trans (first : left.SameAmounts tenant right)
    (second : right.SameAmounts tenant third) : left.SameAmounts tenant third :=
  ⟨fun metric moment => (first.stored metric moment).trans (second.stored metric moment),
    fun metric => (first.live metric).trans (second.live metric),
    fun metric => (first.inflight metric).trans (second.inflight metric)⟩

theorem sameAmounts_of_contents (tracker : right.tracker.live = left.tracker.live)
    (slot : right.tracker.inflight = left.tracker.inflight)
    (contents : right.store.contents = left.store.contents) : left.SameAmounts tenant right := by
  refine ⟨fun metric moment => ?_, fun metric => by rw [tracker], fun metric => by rw [slot]⟩
  rw [Store.storedAt_eq_sum_contents, Store.storedAt_eq_sum_contents, contents]

theorem SameAmounts.countable (amounts : left.SameAmounts tenant right)
    (clock : left.clock = right.clock) (metric : Metric) :
    left.countable ⟨tenant, metric⟩ = right.countable ⟨tenant, metric⟩ := by
  unfold Service.countable unstored
  rw [clock, amounts.stored, amounts.live, amounts.inflight]

theorem sameAmounts_track (service : Service) {key : UsageKey} (apart : key.tenant ≠ tenant)
    (quantity : Nat) : service.SameAmounts tenant (service.track key quantity).2 := by
  rcases service.track_cases key quantity with ⟨_, idle⟩ | ⟨_, _, idle⟩ | ⟨_, _, _, tracker, store, _⟩
  · rw [idle]
    exact .refl tenant service
  · rw [idle]
    exact .refl tenant service
  · refine ⟨fun metric moment => by rw [store], fun metric => ?_, fun metric => ?_⟩
    · have different : key ≠ ⟨tenant, metric⟩ := fun same => apart (congrArg UsageKey.tenant same)
      rw [tracker]
      exact (Eq.trans (Buffer.get_add key _ _ _) (if_neg different)).symm
    · rw [tracker]
      rfl

theorem recordsOf_append_stamp {records others : List NewUsage} (same : left.SameTo tenant right)
    (agree : recordsOf tenant records = recordsOf tenant others) (now : Instant)
    (entry : UsageKey × Int) :
    recordsOf tenant (records ++ [left.stamp now records entry]) =
      recordsOf tenant (others ++ [right.stamp now others entry]) := by
  by_cases own : entry.1.tenant = tenant
  · subst own
    have stamped : left.stamp now records entry = right.stamp now others entry := by
      unfold stamp periodAt
      rw [same.findByTenant, ← List.head?_filter, ← List.head?_filter]
      unfold recordsOf at agree
      rw [agree]
    unfold recordsOf at agree ⊢
    rw [List.filter_append, List.filter_append, agree, stamped]
  · unfold recordsOf at agree ⊢
    simp [List.filter_append, agree, stamp, own]

theorem sameAmounts_endFlush {records others : List NewUsage} (same : left.SameTo tenant right)
    (amounts : left.SameAmounts tenant right) (leftBooks : left.Balanced stage)
    (rightBooks : right.Balanced other) (agree : recordsOf tenant records = recordsOf tenant others)
    (trigger another : Trigger) :
    (left.endFlush trigger records).2.SameAmounts tenant (right.endFlush another others).2 := by
  have down := same.isDown .insertUsage
  have written : ∀ records : List NewUsage, ∀ metric moment,
      (records.filter fun record => record.tenant = tenant &&
        record.metric.name = metric && record.period.contains moment) =
      (recordsOf tenant records).filter fun record =>
        record.metric.name = metric && record.period.contains moment := by
    intro records metric moment
    simp only [recordsOf, List.filter_filter, Bool.and_comm, Bool.and_assoc]
  -- The writing of usage is off in both or in neither.
  rcases left.endFlush_cases trigger records with ⟨up, _, tracker, store, _⟩ |
    ⟨up, _, tracker, store, _⟩ <;>
  rcases right.endFlush_cases another others with ⟨works, _, slot, rows, _⟩ |
    ⟨works, _, slot, rows, _⟩
  · refine ⟨fun metric moment => ?_, fun metric => ?_, fun metric => ?_⟩
    · rw [store, rows, Store.storedAt_appendUsage, Store.storedAt_appendUsage, zip_drawMany,
        zip_drawMany, written, written, agree, amounts.stored]
    · rw [tracker, slot]
      exact amounts.live metric
    · rw [tracker, slot]
      rfl
  · rw [up, works] at down
    cases down
  · rw [up, works] at down
    cases down
  · refine ⟨fun metric moment => ?_, fun metric => ?_, fun metric => ?_⟩
    · rw [store, rows, amounts.stored]
    · rw [tracker, slot]
      change (left.tracker.live.merge left.tracker.inflight).get _ =
        (right.tracker.live.merge right.tracker.inflight).get _
      rw [Buffer.get_merge leftBooks.live leftBooks.inflight,
        Buffer.get_merge rightBooks.live rightBooks.inflight, amounts.live, amounts.inflight]
    · rw [tracker, slot]
      rfl

theorem stepFlush_agreesOn (same : left.SameTo tenant right) (amounts : left.SameAmounts tenant right)
    (leftBooks : left.Balanced stage) (rightBooks : right.Balanced other)
    (agrees : stage.AgreesOn tenant other) (trigger another : Trigger) :
    (left.stepFlush trigger stage).2.SameAmounts tenant (right.stepFlush another other).2 ∧
      ((∃ next later, (left.stepFlush trigger stage).1 = .running next ∧
          (right.stepFlush another other).1 = .running later ∧ next.AgreesOn tenant later) ∨
        ∃ result reply, (left.stepFlush trigger stage).1 = .finished result ∧
          (right.stepFlush another other).1 = .finished reply) := by
  cases agrees with
  | stamping now rest agree =>
      cases rest with
      | nil => exact ⟨amounts, .inl ⟨_, _, rfl, rfl, .writing agree⟩⟩
      | cons entry rest =>
          exact ⟨amounts, .inl ⟨_, _, rfl, rfl,
            .stamping now rest (recordsOf_append_stamp same agree now entry)⟩⟩
  | writing agree =>
      exact ⟨sameAmounts_endFlush same amounts leftBooks rightBooks agree trigger another,
        .inr ⟨_, _, rfl, rfl⟩⟩

end Service

namespace Move

def drops (closing : Bool) : Move → Option Flusher
  | .event (.abandon caller) => some (.caller caller)
  | .event (.expire _) => if closing then some .closing else none
  | .drop flusher => some flusher
  | _ => none

def keepsClosing (closed closing : Bool) : Move → Bool
  | .event .close => closing || !closed
  | .event (.expire _) | .drop .closing => false
  | _ => closing

end Move

namespace Pipeline

variable {tenant other : Uuid} {pipeline left right : Pipeline} {move : Move}

theorem sameAmounts_own (pipeline : Pipeline) (own : move.IsFor tenant) (apart : tenant ≠ other) :
    pipeline.service.SameAmounts other (pipeline.after move).service := by
  cases move with
  | act action =>
      rcases pipeline.after_act_cases action with ⟨key, quantity, rfl⟩ | rfl | ⟨_, result, keeps⟩
      · have booked : key.tenant = tenant := own
        exact Service.sameAmounts_track _ (booked ▸ apart) quantity
      · exact .refl other pipeline.service
      · rw [result]
        exact Service.sameAmounts_of_contents (congrArg _ keeps.tracker) (congrArg _ keeps.tracker)
          keeps.store.contents
  | event event =>
      cases event with
      | flush caller => exact .refl other pipeline.service
      | _ => exact own.elim
  | _ => exact own.elim

theorem sameAmounts_background (pipeline : Pipeline) (background : move.IsBackground)
    (idle : move ≠ .event .work) :
    pipeline.service.SameAmounts tenant (pipeline.after move).service := by
  cases move with
  | event event =>
      rcases pipeline.perform_cases event with ⟨key, quantity, rfl, _⟩ | rfl | ⟨_, reorders⟩
      · exact background.elim
      · exact absurd rfl idle
      · obtain ⟨wakeup, closed, service⟩ := reorders.service
        change pipeline.service.SameAmounts tenant (pipeline.perform event).2.service
        rw [service]
        exact Service.sameAmounts_of_contents rfl rfl rfl
  | drop flusher => cases flusher <;> exact .refl tenant pipeline.service
  | switch method down => exact Service.sameAmounts_of_contents rfl rfl rfl
  | backend backend => exact Service.sameAmounts_of_contents rfl rfl rfl
  | _ => exact background.elim

/-- The holder of the lock stays, unless the move drops its flush. -/
theorem head_background {first : Job} {rest : List Job} (jobs : pipeline.jobs = first :: rest)
    (background : move.IsBackground) (idle : move ≠ .event .work) :
    (move.drops pipeline.closing.isSome ≠ some first.flusher ∧
      ∃ others, (pipeline.after move).jobs = first :: others) ∨
    (move.drops pipeline.closing.isSome = some first.flusher ∧
      ∀ job ∈ (pipeline.after move).jobs, job ∈ rest) := by
  have joined : ∀ flusher trigger, ∃ others,
      pipeline.jobs ++ [Job.mk flusher trigger .queued] = first :: others :=
    fun flusher trigger => ⟨rest ++ [Job.mk flusher trigger .queued], by rw [jobs, List.cons_append]⟩
  have left : ∀ flusher : Flusher,
      (some flusher ≠ some first.flusher ∧
        ∃ others, (pipeline.jobs.filter fun job => job.flusher ≠ flusher) = first :: others) ∨
      (some flusher = some first.flusher ∧
        ∀ job ∈ pipeline.jobs.filter fun job => job.flusher ≠ flusher, job ∈ rest) := by
    intro flusher
    by_cases own : first.flusher = flusher
    · subst own
      refine .inr ⟨rfl, fun job member => ?_⟩
      rw [jobs, List.filter_cons_of_neg (by simp)] at member
      exact List.mem_of_mem_filter member
    · refine .inl ⟨fun same => own (Option.some.inj same).symm,
        rest.filter fun job => job.flusher ≠ flusher, ?_⟩
      rw [jobs, List.filter_cons_of_pos (by simpa using own)]
  cases move with
  | event event =>
      have effect := pipeline.effect event
      rw [after_event]
      generalize pipeline.perform event = performed at effect ⊢
      cases effect with
      | booked => exact background.elim
      | worked => exact absurd rfl idle
      | called | ticked | woken | joined => exact .inl ⟨nofun, joined _ _⟩
      | abandoned => exact left _
      | stopped | closes | refused => exact .inl ⟨nofun, rest, jobs⟩
      | expired limitSecs closing =>
          rw [closing]
          exact left _
      | unclosing limitSecs none =>
          rw [none]
          exact .inl ⟨nofun, rest, jobs⟩
      | early waits => rcases waits with rfl | rfl | rfl | rfl <;> exact .inl ⟨nofun, rest, jobs⟩
  | drop flusher => cases flusher <;> exact left _
  | switch method down => exact .inl ⟨nofun, rest, jobs⟩
  | backend backend => exact .inl ⟨nofun, rest, jobs⟩
  | _ => exact background.elim

theorem isSome_closing_after (pipeline : Pipeline) (background : move.IsBackground)
    (idle : move ≠ .event .work) :
    (pipeline.after move).closing.isSome =
      move.keepsClosing pipeline.service.tracker.closed pipeline.closing.isSome := by
  cases move with
  | event event =>
      have effect := pipeline.effect event
      rw [after_event]
      generalize pipeline.perform event = performed at effect ⊢
      cases effect with
      | booked => exact background.elim
      | worked => exact absurd rfl idle
      | closes opened => simp [Move.keepsClosing, withTracker, opened]
      | refused closed => simp [Move.keepsClosing, closed]
      | joined waits => simp [enqueue, Move.keepsClosing, waits]
      | unclosing limitSecs none => simp [Move.keepsClosing, none]
      | early waits => rcases waits with rfl | rfl | rfl | rfl <;> rfl
      | called | abandoned | ticked | woken | stopped | expired => rfl
  | drop flusher => cases flusher <;> rfl
  | switch method down => rfl
  | backend backend => rfl
  | _ => exact background.elim

/-- No flush of the past is under way in either run, and to the tenant the same counts in both. -/
structure Settled (tenant : Uuid) (left right : Pipeline) : Prop where
  leftTimely : left.Timely
  rightTimely : right.Timely
  counts : ∀ metric, min (left.service.countable ⟨tenant, metric⟩) greatest =
    min (right.service.countable ⟨tenant, metric⟩) greatest

/-- The same flush is under way in both runs, and to the tenant it has come equally far. -/
structure Abreast (tenant : Uuid) (left right : Pipeline) : Prop where
  amounts : left.service.SameAmounts tenant right.service
  closing : left.closing.isSome = right.closing.isSome
  heads : ∃ first rest second others, left.jobs = first :: rest ∧ right.jobs = second :: others ∧
    first.flusher = second.flusher ∧ first.stage.AgreesOn tenant second.stage

/-- To the tenant, two runs are the same but for where its usage is. -/
structure Level (tenant : Uuid) (left right : Pipeline) : Prop where
  leftBooks : left.Balanced
  rightBooks : right.Balanced
  before : left.service.clock.BeforeLastMonth
  same : left.service.SameTo tenant right.service
  phase : Settled tenant left right ∨ Abreast tenant left right

theorem settled_of_waiting (leftBooks : left.Balanced) (rightBooks : right.Balanced)
    (before : left.service.clock.BeforeLastMonth) (clock : left.service.clock = right.service.clock)
    (amounts : left.service.SameAmounts tenant right.service)
    (leftWaits : ∀ job ∈ left.jobs, job.stage = .queued)
    (rightWaits : ∀ job ∈ right.jobs, job.stage = .queued) : Settled tenant left right := by
  refine ⟨⟨leftBooks, ?_, before⟩, ⟨rightBooks, ?_, clock ▸ before⟩, fun metric => ?_⟩
  · rw [stage_of_waiting leftWaits]
    trivial
  · rw [stage_of_waiting rightWaits]
    trivial
  · rw [amounts.countable clock]

theorem Level.refl (tenant : Uuid) (balanced : pipeline.Balanced)
    (before : pipeline.service.clock.BeforeLastMonth) : Level tenant pipeline pipeline := by
  refine ⟨balanced, balanced, before, .refl tenant _, ?_⟩
  have settled : (∀ job ∈ pipeline.jobs, job.stage = .queued) → Settled tenant pipeline pipeline :=
    fun waits => settled_of_waiting balanced balanced before rfl (.refl tenant _) waits waits
  cases jobs : pipeline.jobs with
  | nil => exact .inl (settled (by simp [jobs]))
  | cons first rest =>
      have heads : first.stage.AgreesOn tenant first.stage → Abreast tenant pipeline pipeline :=
        fun agrees => ⟨.refl tenant _, rfl, first, rest, first, rest, jobs, jobs, rfl, agrees⟩
      cases stage : first.stage with
      | queued =>
          refine .inl (settled fun job member => ?_)
          rcases List.mem_cons.mp (jobs ▸ member) with rfl | waiting
          · exact stage
          · exact balanced.exclusive job (by simpa [jobs] using waiting)
      | stamping now records rest => exact .inr (heads (stage ▸ .stamping now rest rfl))
      | writing records => exact .inr (heads (stage ▸ .writing rfl))

theorem Level.countedUsage (level : Level tenant left right) (metric : Metric) :
    left.service.countedUsage ⟨tenant, metric⟩ = right.service.countedUsage ⟨tenant, metric⟩ := by
  rw [Service.countedUsage_eq_min level.leftBooks.service,
    Service.countedUsage_eq_min level.rightBooks.service]
  rcases level.phase with settled | abreast
  · exact settled.counts metric
  · rw [abreast.amounts.countable level.same.clock]

theorem queue_own (pipeline : Pipeline) (own : move.IsFor tenant) :
    (pipeline.after move).closing = pipeline.closing ∧
      ∃ more, (pipeline.after move).jobs = pipeline.jobs ++ more := by
  cases move with
  | act action => cases action <;> exact ⟨rfl, [], (List.append_nil _).symm⟩
  | event event =>
      cases event with
      | flush caller => exact ⟨rfl, _, rfl⟩
      | _ => exact own.elim
  | _ => exact own.elim

theorem Level.own (level : Level other left right) (own : move.IsFor tenant) (apart : tenant ≠ other) :
    Level other (left.after move) right := by
  refine ⟨(after_balanced level.leftBooks move).1, level.rightBooks, ?_, ?_, ?_⟩
  · rw [(left.steady_after own.calm).clock]
    exact level.before
  · exact (sameTo_own left own apart).symm.trans level.same
  · rcases level.phase with settled | abreast
    · refine .inl ⟨settled.leftTimely.after own.calm, settled.rightTimely, fun metric => ?_⟩
      obtain ⟨upper, lower⟩ := settled.leftTimely.countable own.calm ⟨other, metric⟩
      rw [own.accepts left apart] at upper lower
      have counts := settled.counts metric
      omega
    · obtain ⟨amounts, closing, first, rest, second, others, jobs, queue, flusher, agrees⟩ := abreast
      obtain ⟨kept, more, after⟩ := queue_own left own
      refine .inr ⟨(sameAmounts_own left own apart).symm.trans amounts, by rw [kept, closing],
        first, rest ++ more, second, others, ?_, queue, flusher, agrees⟩
      rw [after, jobs, List.cons_append]

theorem Level.work (level : Level tenant left right) (abreast : Abreast tenant left right) :
    Settled tenant (left.perform .work).2 (right.perform .work).2 ∨
      Abreast tenant (left.perform .work).2 (right.perform .work).2 := by
  obtain ⟨amounts, closing, first, rest, second, others, jobs, queue, flusher, agrees⟩ := abreast
  have leftHolder : left.service.Balanced first.stage := stage_of_cons jobs ▸ level.leftBooks.service
  have rightHolder : right.service.Balanced second.stage :=
    stage_of_cons queue ▸ level.rightBooks.service
  obtain ⟨stepped, together⟩ := Service.stepFlush_agreesOn level.same amounts leftHolder rightHolder
    agrees first.trigger second.trigger
  rcases together with ⟨next, later, runs, goes, still⟩ | ⟨result, reply, ends, stops⟩
  · right
    rw [work_of_running jobs runs, work_of_running queue goes]
    exact ⟨stepped, closing, _, rest, _, others, rfl, rfl, flusher, still⟩
  · left
    have leftBooks := (after_balanced level.leftBooks (.event .work)).1
    have rightBooks := (after_balanced level.rightBooks (.event .work)).1
    have leftClock := left.steady_work.clock
    have rightClock := right.steady_work.clock
    refine settled_of_waiting leftBooks rightBooks (leftClock ▸ level.before)
      (by rw [leftClock, rightClock, level.same.clock]) ?_ ?_ ?_
    · rwa [work_of_finished jobs ends, work_of_finished queue stops, deliver_service, deliver_service]
    · rw [work_of_finished jobs ends, deliver_jobs]
      exact fun job member => level.leftBooks.exclusive job (by simpa [jobs] using member)
    · rw [work_of_finished queue stops, deliver_jobs]
      exact fun job member => level.rightBooks.exclusive job (by simpa [queue] using member)

theorem Level.background (level : Level tenant left right) (background : move.IsBackground) :
    Level tenant (left.after move) (right.after move) := by
  have leftBooks := (after_balanced level.leftBooks move).1
  have rightBooks := (after_balanced level.rightBooks move).1
  have same := sameTo_background level.same background
  have before : (left.after move).service.clock.BeforeLastMonth := by
    rw [(left.steady_after background.calm).clock]
    exact level.before
  refine ⟨leftBooks, rightBooks, before, same, ?_⟩
  rcases level.phase with settled | abreast
  · refine .inl ⟨settled.leftTimely.after background.calm, settled.rightTimely.after background.calm,
      fun metric => ?_⟩
    obtain ⟨upper, lower⟩ := settled.leftTimely.countable background.calm ⟨tenant, metric⟩
    obtain ⟨above, below⟩ := settled.rightTimely.countable background.calm ⟨tenant, metric⟩
    rw [background.accepts] at upper lower above below
    have counts := settled.counts metric
    omega
  · by_cases idle : move = .event .work
    · subst idle
      exact level.work abreast
    · obtain ⟨amounts, closing, first, rest, second, others, jobs, queue, flusher, agrees⟩ := abreast
      have kept := ((sameAmounts_background left background idle).symm.trans amounts).trans
        (sameAmounts_background right background idle)
      rcases head_background jobs background idle with ⟨stays, waiting, after⟩ | ⟨drops, after⟩
      · rcases head_background queue background idle with ⟨_, line, later⟩ | ⟨drops, _⟩
        · refine .inr ⟨kept, ?_, first, waiting, second, line, after, later, flusher, agrees⟩
          rw [isSome_closing_after left background idle, isSome_closing_after right background idle,
            level.same.closed, closing]
        · exact absurd (by rw [closing, drops, flusher]) stays
      · rcases head_background queue background idle with ⟨stays, _⟩ | ⟨_, later⟩
        · exact absurd (by rw [← closing, drops, flusher]) stays
        · refine .inl (settled_of_waiting leftBooks rightBooks before same.clock kept ?_ ?_)
          · intro job member
            exact level.leftBooks.exclusive job (by simpa [jobs] using after job member)
          · intro job member
            exact level.rightBooks.exclusive job (by simpa [queue] using later job member)

end Pipeline

end UsageBilling
