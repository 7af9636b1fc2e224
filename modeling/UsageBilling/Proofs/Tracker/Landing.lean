import UsageBilling.Proofs.Tracker.Holding
import UsageBilling.Proofs.Tracker.Readings
import UsageBilling.Proofs.Tracker.Shutdown
/-!
What a flush writes. It takes its snapshot, holds the lock while it looks up periods and other moves come
in, and writes one row for each key that was pending when it began. What came in since is pending after
it.
-/
namespace UsageBilling

open Quantity

inductive Service.Finds (service : Service) (tenant : Uuid) (moment : Instant) : Period → Prop
  | own (row : Subscription) (period : Period)
      (read : service.store.findByTenant tenant = .ok (some row))
      (current : row.currentPeriod = some period) (holds : period.contains moment = true) :
      Finds service tenant moment period
  | month (otherwise : ∀ row period, service.store.findByTenant tenant = .ok (some row) →
      row.currentPeriod = some period → period.contains moment = false) :
      Finds service tenant moment (.calendarMonth moment)

theorem Service.finds_periodAt (service : Service) (tenant : Uuid) (moment : Instant) :
    service.Finds tenant moment (service.periodAt tenant moment) := by
  unfold periodAt
  cases read : service.store.findByTenant tenant with
  | error fault => exact .month fun row period found => by simp [read] at found
  | ok row? =>
      simp only [Period.ofSubscription, Period.resolve]
      cases chosen : (row?.bind Subscription.currentPeriod).filter (·.contains moment) with
      | some period =>
          obtain ⟨present, holds⟩ := Option.filter_eq_some_iff.mp chosen
          obtain ⟨row, rfl, current⟩ := Option.bind_eq_some_iff.mp present
          exact .own row period read current holds
      | none =>
          refine .month fun row period found current => ?_
          obtain rfl : row? = some row := Except.ok.inj (read.symm.trans found)
          simpa [current] using chosen

theorem Service.Finds.contains {service : Service} {tenant : Uuid} {moment : Instant} {period : Period}
    (finds : service.Finds tenant moment period) (before : moment.BeforeLastMonth) :
    period.contains moment = true := by
  cases finds with
  | own row _ read current holds => exact holds
  | month otherwise => exact Period.calendarMonth_contains before

namespace Pipeline

variable {pipeline : Pipeline} {during : List Move}

def outcome? (pipeline : Pipeline) : Option (Except Fault FlushReport) :=
  pipeline.jobs.head?.bind fun job =>
    match (pipeline.service.stepFlush job.trigger job.stage).1 with
    | .running _ => none
    | .finished result => some result

def held (pipeline : Pipeline) (during : List Move) : Pipeline :=
  (pipeline.after (.event .work)).afterAll during

/-- The flush that is next takes its snapshot, holds the lock during the moves, and ends after them. -/
structure Flushes (pipeline : Pipeline) (during : List Move) (result : Except Fault FlushReport) :
    Prop where
  queued : pipeline.stage = .queued
  holds : (pipeline.after (.event .work)).Holds during
  ends : (pipeline.held during).outcome? = some result

def FoundPeriod (begun : Pipeline) (during : List Move) (tenant : Uuid) (period : Period) : Prop :=
  ∃ earlier later, during = earlier ++ later ∧
    (begun.held earlier).service.Finds tenant begun.service.clock period

/-- A flush that took its snapshot of `begun` and held the lock during the moves has written one row for
each of these keys, with the period of its tenant, and nothing else. -/
structure Landed (begun : Pipeline) (during : List Move) (report : FlushReport) (keys : List UsageKey)
    (periodOf : Uuid → Period) : Prop where
  nodup : keys.Nodup
  complete : ∀ key, key ∈ keys ↔ key ∈ begun.service.tracker.unflushed
  positive : ∀ key ∈ keys, 1 ≤ begun.service.tracker.pending key
  unwritten : (begun.held during).service.store.contents = begun.service.store.contents
  written : ∃ rows, ((begun.held during).after (.event .work)).service.store.usage =
      (begun.held during).service.store.usage ++ rows ∧ (∀ row ∈ rows, row.reported = false) ∧
    rows.map (fun row => (row.groupKey, row.quantity)) = keys.map fun key =>
      (⟨key.tenant, key.metric.name, periodOf key.tenant⟩, begun.service.tracker.pending key)
  found : ∀ tenant, begun.FoundPeriod during tenant (periodOf tenant)
  contains : begun.service.clock.BeforeLastMonth →
    ∀ tenant, (periodOf tenant).contains begun.service.clock = true
  pending : ∀ key, ((begun.held during).after (.event .work)).service.tracker.pending key =
    min ((begun.after (.event .work)).accepted key during : Int) greatest
  records : report.records = keys.length
  quantity : report.quantity = min (keys.map begun.service.tracker.pending).sum greatest

theorem begun_cases (buffered : pipeline.Buffered) (queued : pipeline.stage = .queued)
    (began : (pipeline.after (.event .work)).stage ≠ .queued) :
    (pipeline.after (.event .work)).service = pipeline.service.beginFlush ∧
      (pipeline.after (.event .work)).stage =
        .stamping pipeline.service.clock [] pipeline.service.beginFlush.tracker.inflight := by
  change (pipeline.perform .work).2.stage ≠ _ at began
  change (pipeline.perform .work).2.service = _ ∧ (pipeline.perform .work).2.stage = _
  rcases pipeline.work_cases with ⟨empty, idle⟩ | ⟨job, rest, jobs, service, running⟩
  · rw [idle] at began
    exact absurd queued began
  · rw [← stage_of_cons jobs, queued] at service running
    rcases running with ⟨next, step, queue⟩ | ⟨result, step, queue⟩
    · unfold Service.stepFlush at service step
      dsimp only at service step
      split at step
      · cases step
      · next filled =>
          rw [if_neg filled] at service
          obtain rfl := FlushStep.running.inj step
          exact ⟨service, stage_of_cons queue⟩
    · exact absurd (buffered.exclusive.stage_of_done jobs queue) began

theorem ended_cases {result : Except Fault FlushReport} (held : pipeline.stage ≠ .queued)
    (ends : pipeline.outcome? = some result) : ∃ trigger records, pipeline.stage = .writing records ∧
      (pipeline.service.endFlush trigger records).1 = result ∧
      (pipeline.after (.event .work)).service = (pipeline.service.endFlush trigger records).2 := by
  change ∃ trigger records, _ ∧ _ ∧ (pipeline.perform .work).2.service = _
  rcases pipeline.work_cases with ⟨empty, _⟩ | ⟨job, rest, jobs, service, _⟩
  · exact absurd (stage_of_nil empty) held
  · have own := stage_of_cons jobs
    rw [outcome?, jobs, List.head?_cons, Option.bind_some] at ends
    rw [own] at held ⊢
    cases stage : job.stage with
    | queued => exact absurd stage held
    | stamping now records rest =>
        rw [stage] at ends
        cases rest <;> cases ends
    | writing records =>
        rw [stage] at ends service
        exact ⟨job.trigger, records, rfl, Option.some.inj ends, service⟩

theorem work_batch (pipeline : Pipeline) :
    (pipeline.after (.event .work)).service.store = pipeline.service.store ∨
    ∃ job rest records, pipeline.jobs = job :: rest ∧ job.stage = .writing records ∧
      (pipeline.after (.event .work)).jobs = rest ∧
      (pipeline.after (.event .work)).service.tracker = pipeline.service.tracker.land ∧
      (pipeline.after (.event .work)).service.store = pipeline.service.store.appendUsage
        ((pipeline.service.ids.drawMany records.length).1.zip records) pipeline.service.clock ∧
      pipeline.outcome? = some (.ok (Service.reportOf records)) := by
  change (pipeline.perform .work).2.service.store = _ ∨ ∃ job rest records, _ ∧ _ ∧
    (pipeline.perform .work).2.jobs = _ ∧ (pipeline.perform .work).2.service.tracker = _ ∧
    (pipeline.perform .work).2.service.store = _ ∧ _
  rcases pipeline.work_cases with ⟨_, idle⟩ | ⟨job, rest, jobs, service, running⟩
  · exact .inl (by rw [idle])
  · rw [service]
    cases stage : job.stage with
    | queued =>
        left
        unfold Service.stepFlush
        dsimp only
        split <;> rfl
    | stamping now records remaining => left; cases remaining <;> rfl
    | writing records =>
        rw [stage] at running
        rcases running with ⟨next, step, _⟩ | ⟨result, step, queue⟩
        · cases step
        · obtain rfl := FlushStep.finished.inj step
          rcases pipeline.service.endFlush_cases job.trigger records with
            ⟨_, success, tracker, store, _⟩ | ⟨_, _, _, store, _⟩
          · refine .inr ⟨job, rest, records, jobs, stage, queue, tracker, store, ?_⟩
            simp [outcome?, jobs, stage, Service.stepFlush, success]
          · exact .inl store

theorem get_beginFlush (buffered : pipeline.Buffered) (key : UsageKey) :
    pipeline.service.beginFlush.tracker.inflight.get key = pipeline.service.tracker.pending key :=
  Buffer.get_merge buffered.service.live buffered.service.inflight key

structure Ready (begun : Pipeline) (during : List Move) (records : List NewUsage) : Prop where
  covers : records.map NewUsage.entry = begun.service.beginFlush.tracker.inflight
  timely : Timely (begun.FoundPeriod during) records
  unwritten : (begun.held during).service.store.contents = begun.service.store.contents
  live : ∀ key, (begun.held during).service.tracker.live.get key =
    min ((begun.after (.event .work)).accepted key during : Int) greatest

theorem ready_of_holds (buffered : pipeline.Buffered) (queued : pipeline.stage = .queued)
    (holds : (pipeline.after (.event .work)).Holds during) {records : List NewUsage}
    (writing : (pipeline.held during).stage = .writing records) : pipeline.Ready during records := by
  obtain ⟨service, stage⟩ := begun_cases buffered queued holds.start
  have begun : (pipeline.after (.event .work)).Buffered := (after_buffered buffered _).1
  have collects := holds.collects begun
  have finds : ∀ earlier later, during = earlier ++ later → ∀ tenant, pipeline.FoundPeriod during tenant
      ((pipeline.held earlier).service.periodAt tenant pipeline.service.clock) :=
    fun earlier later split tenant => ⟨earlier, later, split, Service.finds_periodAt _ _ _⟩
  have dated : (pipeline.held during).stage.Dated pipeline.service.clock (pipeline.FoundPeriod during) :=
    holds.dated begun (by rw [stage]; exact ⟨rfl, timely_nil⟩) finds
  have covers := (afterAll_buffered begun during).1.service.covers
  change (pipeline.held during).stage.Covers (pipeline.held during).service.tracker.inflight at covers
  rw [writing] at dated covers
  have slot : (pipeline.held during).service.tracker.inflight =
      pipeline.service.beginFlush.tracker.inflight := by
    rw [← service]
    exact collects.inflight
  refine ⟨covers.trans slot, dated, ?_, fun key => ?_⟩
  · have contents := collects.contents
    rw [service] at contents
    exact contents
  · have live := collects.live key
    rw [service] at live
    simpa [held, Service.beginFlush, Tracker.snapshot, Buffer.get_nil] using live

theorem Ready.records {records : List NewUsage} (ready : pipeline.Ready during records)
    (buffered : pipeline.Buffered) : ∃ keys : List UsageKey, ∃ periodOf : Uuid → Period,
      keys.Nodup ∧ (∀ key, key ∈ keys ↔ key ∈ pipeline.service.tracker.unflushed) ∧
      (∀ tenant, pipeline.FoundPeriod during tenant (periodOf tenant)) ∧
      records = keys.map fun key =>
        ⟨key.tenant, key.metric, pipeline.service.tracker.pending key, periodOf key.tenant⟩ := by
  have form : pipeline.service.beginFlush.tracker.inflight.WellFormed :=
    (Service.beginFlush_buffered buffered.service).1.inflight
  obtain ⟨periodOf, found, same⟩ := ready.timely.periods fun tenant =>
    ⟨_, [], during, rfl, Service.finds_periodAt _ _ _⟩
  refine ⟨pipeline.service.beginFlush.tracker.inflight.keys, periodOf, form.nodup, fun key => ?_, found, ?_⟩
  · rw [← Buffer.get_pos_iff form, get_beginFlush buffered,
      Tracker.mem_unflushed_iff_pending_pos buffered.service.tracker]
  · rw [Buffer.keys, ← ready.covers, List.map_map, List.map_map]
    refine (List.map_id records).symm.trans (List.map_congr_left fun record member => ?_)
    have entry : record.entry ∈ pipeline.service.beginFlush.tracker.inflight :=
      ready.covers ▸ List.mem_map_of_mem member
    have amount : pipeline.service.tracker.pending record.entry.1 = record.quantity := by
      rw [← get_beginFlush buffered, Buffer.get_of_mem form.nodup entry]
      rfl
    have period := same record member
    obtain ⟨tenant, metric, quantity, period⟩ := record
    exact NewUsage.mk.injEq .. ▸ ⟨rfl, rfl, amount.symm, period⟩

theorem rows_drawMany (ids : IdSource) (records : List NewUsage) (now : Instant) :
    let rows := ((ids.drawMany records.length).1.zip records).map fun entry =>
      UsageRow.fresh entry.1 entry.2 now
    (∀ row ∈ rows, row.reported = false) ∧ rows.map (fun row => (row.groupKey, row.quantity)) =
      records.map fun record => (⟨record.tenant, record.metric.name, record.period⟩, record.quantity) := by
  intro rows
  constructor
  · intro row member
    obtain ⟨entry, _, rfl⟩ := List.mem_map.mp member
    rfl
  · have drawn := Service.zip_drawMany ids records
    calc
      _ = (((ids.drawMany records.length).1.zip records).map Prod.snd).map fun record =>
          (⟨record.tenant, record.metric.name, record.period⟩, record.quantity) := by
        rw [List.map_map, List.map_map]
        rfl
      _ = _ := by rw [drawn]

theorem Flushes.landed {report : FlushReport} (flushes : pipeline.Flushes during (.ok report))
    (buffered : pipeline.Buffered) :
    ∃ keys periodOf, pipeline.Landed during report keys periodOf := by
  obtain ⟨queued, holds, ends⟩ := flushes
  have last : (pipeline.held during).stage ≠ .queued := holds.last
  obtain ⟨trigger, records, writing, success, ended⟩ := ended_cases last ends
  have ready : pipeline.Ready during records := ready_of_holds buffered queued holds writing
  obtain ⟨keys, periodOf, nodup, complete, found, same⟩ := ready.records buffered
  have pending : ∀ key ∈ keys, 1 ≤ pipeline.service.tracker.pending key := fun key member =>
    (Tracker.mem_unflushed_iff_pending_pos buffered.service.tracker key).mp ((complete key).mp member)
  have quantities : records.map (·.quantity) = keys.map pipeline.service.tracker.pending := by
    rw [same, List.map_map]
    rfl
  rcases (pipeline.held during).service.endFlush_cases trigger records with
    ⟨_, reported, tracker, store, _⟩ | ⟨_, failure, _⟩
  · rw [reported] at success
    obtain rfl := Except.ok.inj success
    obtain ⟨unreported, rows⟩ := rows_drawMany (pipeline.held during).service.ids records
      (pipeline.held during).service.clock
    refine ⟨keys, periodOf, nodup, complete, pending, ready.unwritten, ⟨_, ?_, unreported, ?_⟩, found, ?_,
      fun key => ?_, ?_, ?_⟩
    · rw [ended]
      exact congrArg Store.usage store
    · rw [rows, same, List.map_map]
      rfl
    · intro early tenant
      obtain ⟨_, _, _, finds⟩ := found tenant
      exact finds.contains early
    · rw [ended, tracker]
      simp only [Tracker.pending, Tracker.land, Buffer.get_nil, ready.live key]
      rw [Quantity.add_zero (by have := greatest_nonneg; omega) (by omega)]
    · rw [same]
      exact List.length_map _
    · have nonneg : ∀ amount ∈ keys.map pipeline.service.tracker.pending, 0 ≤ amount := by
        intro amount member
        obtain ⟨key, present, rfl⟩ := List.mem_map.mp member
        exact le_trans (by decide) (pending key present)
      simp only [Service.reportOf, quantities]
      exact sum_of_nonneg _ nonneg
  · exact absurd (success.symm.trans failure) (by simp)

theorem flush_of_empty (queued : pipeline.stage = .queued)
    (waiting : pipeline.jobs ≠ []) (empty : pipeline.service.tracker.unflushed = ∅) :
    pipeline.outcome? = some (.ok ⟨0, 0⟩) ∧
      (pipeline.after (.event .work)).service.store = pipeline.service.store ∧
      ∀ key, (pipeline.after (.event .work)).service.tracker.pending key = 0 := by
  obtain ⟨live, inflight⟩ : pipeline.service.tracker.live = [] ∧ pipeline.service.tracker.inflight = [] := by
    simpa [Tracker.unflushed, Buffer.keys] using empty
  cases jobs : pipeline.jobs with
  | nil => exact absurd jobs waiting
  | cons job rest =>
      have step := Service.stepFlush_of_empty live inflight job.trigger
      rw [stage_of_cons jobs] at queued
      have service : (pipeline.perform .work).2.service = pipeline.service.beginFlush := by
        rw [work_of_finished jobs (by rw [queued, step]), deliver_service, queued, step]
      change pipeline.outcome? = _ ∧ (pipeline.perform .work).2.service.store = _ ∧
        ∀ key, (pipeline.perform .work).2.service.tracker.pending key = 0
      rw [service]
      refine ⟨by simp [outcome?, jobs, queued, step], rfl, fun key => ?_⟩
      simp [Service.beginFlush, Tracker.snapshot, Tracker.requeue, live, inflight, Buffer.merge_nil,
        Tracker.pending, Buffer.get_nil, Quantity.add_zero, greatest_nonneg]

/-- Nobody but a flush that takes its snapshot gets past its own. -/
theorem eq_work_of_begun (exclusive : pipeline.Exclusive) {move : Move} (queued : pipeline.stage = .queued)
    (began : (pipeline.after move).stage ≠ .queued) : move = .event .work := by
  rcases pipeline.after_cases move with ⟨key, quantity, result, _⟩ | ⟨same, _⟩ | ⟨reorders | surrounds, _⟩
  · rw [result] at began
    exact absurd queued began
  · exact same
  · rcases reorders.stage exclusive with kept | left
    · exact absurd (kept.trans queued) began
    · exact absurd left began
  · exact absurd (surrounds.stage.trans queued) began

theorem held_since (buffered : pipeline.Buffered) (free : pipeline.stage = .queued) {moves : List Move}
    (held : (pipeline.afterAll moves).stage ≠ .queued) : ∃ before during,
      moves = before ++ .event .work :: during ∧ (pipeline.afterAll before).stage = .queued ∧
      ((pipeline.afterAll before).after (.event .work)).Holds during := by
  induction moves using List.reverseRecOn with
  | nil => exact absurd free held
  | append_singleton moves move ih =>
      -- The snapshot is taken by the last move, or it has been taken before.
      by_cases queued : (pipeline.afterAll moves).stage = .queued
      · rw [afterAll_append] at held
        obtain rfl := eq_work_of_begun (afterAll_buffered buffered moves).1.exclusive queued held
        exact ⟨moves, [], rfl, queued, held⟩
      · obtain ⟨before, during, rfl, begun, holds⟩ := ih queued
        refine ⟨before, during ++ [move], by simp, begun, holds_concat holds ?_⟩
        simpa [afterAll_append, afterAll_cons] using held

theorem unflushed_of_outcome (buffered : pipeline.Buffered) (queued : pipeline.stage = .queued)
    {report : FlushReport} (ends : pipeline.outcome? = some (.ok report)) :
    pipeline.service.tracker.unflushed = ∅ := by
  have slot : pipeline.service.beginFlush.tracker.inflight = [] := by
    cases jobs : pipeline.jobs with
    | nil => simp [outcome?, jobs] at ends
    | cons job rest =>
        rw [stage_of_cons jobs] at queued
        by_contra filled
        simp [outcome?, jobs, queued, Service.stepFlush, filled] at ends
  apply Finset.eq_empty_of_forall_notMem
  intro key member
  have positive := (Tracker.mem_unflushed_iff_pending_pos buffered.service.tracker key).mp member
  rw [← get_beginFlush buffered, slot, Buffer.get_nil] at positive
  exact lt_irrefl 0 positive

/-- A flush that finds nothing to write ends at once, reports that, and leaves the store as it is. Every
other flush that succeeds has held the lock since its snapshot, and then writes one row for each key that
was pending at its snapshot, as much as was pending, and nothing else. All rows of a tenant are of one
period: the tenant's own one if that holds the time of the snapshot, and else the calendar month. What was
accepted since the snapshot is pending afterwards, cut off at the greatest amount. -/
theorem flush_writes_pending (start : Pipeline) (opened : start.Opened) (moves : List Move) :
    let last := start.afterAll moves
    (last.stage = .queued → last.jobs ≠ [] → last.service.tracker.unflushed = ∅ →
      last.outcome? = some (.ok ⟨0, 0⟩) ∧
      (last.after (.event .work)).service.store = last.service.store ∧
      ∀ key, (last.after (.event .work)).service.tracker.pending key = 0) ∧
    ∀ report, last.outcome? = some (.ok report) →
      (last.stage = .queued ∧ last.service.tracker.unflushed = ∅) ∨
      ∃ before during keys periodOf, moves = before ++ .event .work :: during ∧
        (start.afterAll before).Flushes during (.ok report) ∧
        (start.afterAll before).Landed during report keys periodOf := by
  intro last
  have buffered : last.Buffered := (afterAll_buffered opened.buffered moves).1
  refine ⟨flush_of_empty, fun report ends => ?_⟩
  by_cases queued : last.stage = .queued
  · exact .inl ⟨queued, unflushed_of_outcome buffered queued ends⟩
  · obtain ⟨before, during, rfl, free, holds⟩ :=
      held_since opened.buffered (stage_of_nil opened.jobs) queued
    have same : last = (start.afterAll before).held during := by
      simp only [last, held, afterAll_append, afterAll_cons]
    have flushes : (start.afterAll before).Flushes during (.ok report) := ⟨free, holds, same ▸ ends⟩
    obtain ⟨keys, periodOf, landed⟩ := flushes.landed (afterAll_buffered opened.buffered before).1
    exact .inr ⟨before, during, keys, periodOf, rfl, flushes, landed⟩

def askedToFlush : List Move := [.event (.track trackedKey 5), .event (.flush 1)]

def trackedMeanwhile (quantities : List Nat) : List Move :=
  quantities.map (fun quantity => .event (.track trackedKey quantity)) ++ [.event .work, .event .work]

theorem flush_writes_pending_meanwhile :
    let moves := askedToFlush ++ .event .work :: trackedMeanwhile [2]
    launched.Opened ∧ (launched.afterAll moves).outcome? = some (.ok ⟨1, 5⟩) ∧
    ∃ before during keys periodOf, moves = before ++ .event .work :: during ∧
      (launched.afterAll before).Landed during ⟨1, 5⟩ keys periodOf := by
  intro moves
  have ends : (launched.afterAll moves).outcome? = some (.ok ⟨1, 5⟩) := by decide +kernel
  refine ⟨launched_opened, ends, ?_⟩
  rcases (flush_writes_pending launched launched_opened moves).2 _ ends with ⟨queued, _⟩ |
    ⟨before, during, keys, periodOf, split, _, landed⟩
  · exact absurd queued (by decide +kernel)
  · exact ⟨before, during, keys, periodOf, split, landed⟩

/-- What is accepted during a flush is not always pending after it in full: an amount ends at the
greatest one. -/
theorem pending_ne_accepted_saturated : ¬ ∀ (start : Pipeline) (before during : List Move)
    (report : FlushReport) (key : UsageKey), start.Opened →
      (start.afterAll before).Flushes during (.ok report) →
      (((start.afterAll before).held during).after (.event .work)).service.tracker.pending key =
        ((start.afterAll before).after (.event .work)).accepted key during := by
  intro all
  let during := trackedMeanwhile [9223372036854775807, 10]
  have flushes : (launched.afterAll askedToFlush).Flushes during (.ok ⟨1, 5⟩) :=
    ⟨by decide +kernel, by decide +kernel, by decide +kernel⟩
  have same := all launched askedToFlush during _ trackedKey launched_opened flushes
  have pending : (((launched.afterAll askedToFlush).held during).after
      (.event .work)).service.tracker.pending trackedKey = 9223372036854775807 := by decide +kernel
  have accepted : ((launched.afterAll askedToFlush).after (.event .work)).accepted trackedKey during =
      9223372036854775817 := by decide +kernel
  rw [pending, accepted] at same
  exact absurd same (by decide)

end Pipeline

end UsageBilling
