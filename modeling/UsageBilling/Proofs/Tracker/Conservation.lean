import UsageBilling.Proofs.Tracker.Buffers
import UsageBilling.Proofs.Tracker.Moves
/-!
Conservation of usage. What is stored, live or in the slot of a flush together is what has been
accepted: no move loses a unit or makes one, as long as the amounts fit into 64 bits.
-/
namespace UsageBilling

open Quantity

/-- What the flush at this stage is about to write is what lies in its slot. -/
def Flush.Covers (slot : Buffer) : Flush → Prop
  | .queued => True
  | .stamping _ records rest => records.map NewUsage.entry ++ rest = slot
  | .writing records => records.map NewUsage.entry = slot

namespace Service

def unstored (service : Service) (key : UsageKey) : Int :=
  service.tracker.live.get key + service.tracker.inflight.get key

def held (service : Service) (key : UsageKey) : Int :=
  service.store.stored key + service.tracker.live.get key + service.tracker.inflight.get key

/-- The buffers of a service whose lock is held by a flush at `stage`. -/
structure Buffered (service : Service) (stage : Flush) : Prop where
  live : service.tracker.live.WellFormed
  inflight : service.tracker.inflight.WellFormed
  covers : stage.Covers service.tracker.inflight

/-- The books of a service whose lock is held by a flush at `stage`. -/
structure Balanced (service : Service) (stage : Flush) : Prop where
  live : service.tracker.live.WellFormed
  inflight : service.tracker.inflight.WellFormed
  stored : ∀ content ∈ service.store.contents, IsAmount content.2.2
  covers : stage.Covers service.tracker.inflight

/-- While `brings` units come in, rows with amounts are added, and of the units that were not stored and
those that came in none is lost and none is made, as long as they fit. -/
structure Conserves (before after : Service) (brings : UsageKey → Nat) : Prop where
  rows : ∀ content ∈ after.store.contents, content ∈ before.store.contents ∨ IsAmount content.2.2
  grows : ∀ key, before.store.stored key ≤ after.store.stored key
  carries : ∀ key, Carries (before.unstored key) (brings key)
    (after.store.stored key - before.store.stored key + after.unstored key)

variable {service after : Service} {stage next : Flush} {brings : UsageKey → Nat}

theorem Buffered.unlock (buffered : Buffered service stage) : Buffered service .queued :=
  ⟨buffered.live, buffered.inflight, trivial⟩

theorem Balanced.buffered (balanced : Balanced service stage) : Buffered service stage :=
  ⟨balanced.live, balanced.inflight, balanced.covers⟩

theorem Balanced.quantity_nonneg (balanced : Balanced service stage) {row : UsageRow}
    (member : row ∈ service.store.usage) : 0 ≤ row.quantity := by
  have bounds := balanced.stored row.content (List.mem_map_of_mem member)
  exact le_trans (by decide) bounds.1

theorem Balanced.stored_nonneg (balanced : Balanced service stage) (key : UsageKey) :
    0 ≤ service.store.stored key := by
  apply List.sum_nonneg
  intro amount member
  obtain ⟨row, found, rfl⟩ := List.mem_map.mp member
  exact balanced.quantity_nonneg (List.mem_of_mem_filter found)

theorem Balanced.quantitiesAt_nonneg (balanced : Balanced service stage) (key : UsageKey)
    (moment : Instant) :
    ∀ amount ∈ service.store.quantitiesAt key.tenant key.metric moment, 0 ≤ amount := by
  intro amount member
  obtain ⟨row, found, rfl⟩ := List.mem_map.mp member
  exact balanced.quantity_nonneg (List.mem_of_mem_filter found)

theorem conserves_of_contents (contents : after.store.contents = service.store.contents)
    (carries : ∀ key, Carries (service.unstored key) (brings key) (after.unstored key)) :
    Conserves service after brings := by
  have stored := Store.stored_of_contents contents
  refine ⟨fun content member => .inl (contents ▸ member), fun key => (stored key).ge, fun key => ?_⟩
  rw [stored, Int.sub_self, Int.zero_add]
  exact carries key

theorem Conserves.refl (service : Service) : Conserves service service fun _ => 0 :=
  conserves_of_contents rfl fun _ => Carries.refl _

theorem Conserves.trans {last : Service} {more : UsageKey → Nat}
    (first : Conserves service after brings) (second : Conserves after last more) :
    Conserves service last fun key => brings key + more key := by
  refine ⟨?_, fun key => (first.grows key).trans (second.grows key), fun key => ?_⟩
  · intro content member
    rcases second.rows content member with present | amount
    · exact first.rows content present
    · exact .inr amount
  · have grows := first.grows key
    obtain ⟨upper, lower⟩ := first.carries key
    obtain ⟨laterUpper, laterLower⟩ := second.carries key
    constructor <;> push_cast <;> omega

theorem Conserves.balanced (conserves : Conserves service after brings)
    (buffered : Buffered after next) (balanced : Balanced service stage) : Balanced after next := by
  refine ⟨buffered.live, buffered.inflight, ?_, buffered.covers⟩
  intro content member
  exact (conserves.rows content member).elim (balanced.stored content) id

theorem Conserves.held (conserves : Conserves service after brings)
    (balanced : Balanced service stage) (key : UsageKey) :
    Carries (service.held key) (brings key) (after.held key) := by
  have nonneg := balanced.stored_nonneg key
  obtain ⟨upper, lower⟩ := conserves.carries key
  unfold unstored at upper lower
  unfold Service.held
  constructor <;> omega

theorem track_buffered (buffered : Buffered service stage) (key : UsageKey) (quantity : Nat) :
    Buffered (service.track key quantity).2 stage ∧
      Conserves service (service.track key quantity).2 fun asked =>
        if key = asked ∧ (service.track key quantity).1.isOk then quantity else 0 := by
  rcases service.track_cases key quantity with ⟨_, closed⟩ | ⟨_, zero, idle⟩ |
    ⟨_, positive, accepted, tracker, store, _⟩
  · rw [closed]
    exact ⟨buffered, by simpa [Except.isOk, Except.toBool] using Conserves.refl service⟩
  · rw [idle]
    exact ⟨buffered, by simpa [zero] using Conserves.refl service⟩
  · have isAmount := ofCount_isAmount positive
    have live : (service.track key quantity).2.tracker.live =
        Buffer.add key (ofCount quantity) service.tracker.live := by
      rw [tracker]
      rfl
    have inflight : (service.track key quantity).2.tracker.inflight = service.tracker.inflight := by
      rw [tracker]
      rfl
    constructor
    · refine ⟨?_, ?_, ?_⟩
      · rw [live]
        exact Buffer.wellFormed_add buffered.live key isAmount
      · rw [inflight]
        exact buffered.inflight
      · rw [inflight]
        exact buffered.covers
    · refine conserves_of_contents (congrArg Store.contents store) fun asked => ?_
      unfold unstored
      rw [accepted, live, inflight, Buffer.get_add]
      have liveBounds := Buffer.get_bounds buffered.live key
      have slotBounds := Buffer.get_bounds buffered.inflight key
      by_cases same : key = asked
      · subst same
        rw [if_pos rfl, add_of_nonneg liveBounds.1 (by have := isAmount.1; omega)]
        simp only [true_and, Except.isOk, Except.toBool, if_true, ofCount]
        constructor <;> omega
      · rw [if_neg same, if_neg (fun both => same both.1)]
        exact Carries.refl _

theorem merge_carries {live inflight : Buffer} (left : live.WellFormed)
    (right : inflight.WellFormed) (key : UsageKey) :
    Carries (live.get key + inflight.get key) 0 ((live.merge inflight).get key) := by
  have leftBounds := Buffer.get_bounds left key
  have rightBounds := Buffer.get_bounds right key
  rw [Buffer.get_merge left right, add_of_nonneg leftBounds.1 rightBounds.1]
  constructor <;> omega

theorem beginFlush_buffered (buffered : Buffered service stage) :
    Buffered service.beginFlush .queued ∧ Conserves service service.beginFlush fun _ => 0 := by
  constructor
  · exact ⟨Buffer.wellFormed_nil, Buffer.wellFormed_merge buffered.live buffered.inflight, trivial⟩
  · refine conserves_of_contents rfl fun key => ?_
    have merged := merge_carries buffered.live buffered.inflight key
    simpa [unstored, beginFlush, Tracker.snapshot, Tracker.requeue, Buffer.get_nil] using merged

theorem foldl_count (records : List NewUsage) (counter : NewUsage → Counter) (start : Service) :
    (records.foldl (fun s record => s.count (counter record)) start).tracker = start.tracker ∧
    (records.foldl (fun s record => s.count (counter record)) start).store = start.store ∧
    (records.foldl (fun s record => s.count (counter record)) start).clock = start.clock := by
  induction records generalizing start with
  | nil => exact ⟨rfl, rfl, rfl⟩
  | cons record records ih => exact ih (start.count (counter record))

/-- What the end of a flush does: its rows are appended and its slot is emptied, or the slot goes back
into the live buffer. -/
theorem endFlush_cases (service : Service) (trigger : Trigger) (records : List NewUsage) :
    (service.store.isDown .insertUsage = false ∧
      (service.endFlush trigger records).1 = .ok (reportOf records) ∧
      (service.endFlush trigger records).2.tracker = service.tracker.land ∧
      (service.endFlush trigger records).2.store = service.store.appendUsage
        ((service.ids.drawMany records.length).1.zip records) service.clock ∧
      (service.endFlush trigger records).2.clock = service.clock) ∨
    (service.store.isDown .insertUsage = true ∧
      (service.endFlush trigger records).1 = .error Store.Method.insertUsage.outage ∧
      (service.endFlush trigger records).2.tracker = service.tracker.requeue ∧
      (service.endFlush trigger records).2.store = service.store ∧
      (service.endFlush trigger records).2.clock = service.clock) := by
  cases down : service.store.isDown .insertUsage with
  | true =>
      right
      refine ⟨rfl, ?_⟩
      simp only [endFlush, Store.insertUsage, Store.guarded_error down]
      exact ⟨trivial, rfl, rfl, rfl⟩
  | false =>
      left
      refine ⟨rfl, ?_⟩
      simp only [endFlush, Store.insertUsage, Store.guarded_ok down]
      obtain ⟨tracker, store, clock⟩ := foldl_count records
        (fun record => .recordsFlushed record.metric)
        { service with
          store := service.store.appendUsage
            ((service.ids.drawMany records.length).1.zip records) service.clock
          ids := (service.ids.drawMany records.length).2
          tracker := service.tracker.land }
      exact ⟨trivial, by simpa using tracker, by simpa using store, by simpa using clock⟩

/-- Only usage, what holds it and what counts it may have changed. -/
structure SameButUsage (before after : Service) : Prop where
  clock : after.clock = before.clock
  closed : after.tracker.closed = before.tracker.closed
  wakeup : after.tracker.wakeup = before.tracker.wakeup
  subscriptions : after.store.subscriptions = before.store.subscriptions
  outages : after.store.outages = before.store.outages

theorem SameButUsage.refl (service : Service) : SameButUsage service service :=
  ⟨rfl, rfl, rfl, rfl, rfl⟩

theorem sameButUsage_endFlush (service : Service) (trigger : Trigger) (records : List NewUsage) :
    SameButUsage service (service.endFlush trigger records).2 := by
  rcases service.endFlush_cases trigger records with ⟨_, _, tracker, store, clock⟩ |
    ⟨_, _, tracker, store, clock⟩
  · refine ⟨clock, ?_, ?_, ?_, ?_⟩
    · rw [tracker]
      rfl
    · rw [tracker]
      rfl
    · rw [store]
      rfl
    · rw [store]
      rfl
  · refine ⟨clock, ?_, ?_, ?_, ?_⟩
    · rw [tracker]
      rfl
    · rw [tracker]
      rfl
    · rw [store]
    · rw [store]

theorem sameButUsage_stepFlush (service : Service) (trigger : Trigger) (stage : Flush) :
    SameButUsage service (service.stepFlush trigger stage).2 := by
  cases stage with
  | queued =>
      unfold stepFlush
      dsimp only
      split <;> exact ⟨rfl, rfl, rfl, rfl, rfl⟩
  | stamping now records rest => cases rest <;> exact .refl service
  | writing records => exact service.sameButUsage_endFlush trigger records

theorem zip_drawMany (ids : IdSource) (records : List NewUsage) :
    ((ids.drawMany records.length).1.zip records).map Prod.snd = records := by
  apply List.map_snd_zip
  simp [IdSource.drawMany]

theorem entries_drawMany {slot : Buffer} (ids : IdSource) {records : List NewUsage}
    (covers : records.map NewUsage.entry = slot) :
    ((ids.drawMany records.length).1.zip records).map (fun entry => entry.2.entry) = slot := by
  calc
    _ = (((ids.drawMany records.length).1.zip records).map Prod.snd).map NewUsage.entry := by
      rw [List.map_map]
      rfl
    _ = slot := by rw [zip_drawMany, covers]

theorem stored_of_written {records : List NewUsage} (buffered : Buffered service (.writing records))
    (key : UsageKey) :
    (service.store.appendUsage ((service.ids.drawMany records.length).1.zip records)
      service.clock).stored key = service.store.stored key + service.tracker.inflight.get key := by
  rw [Store.stored_appendUsage, entries_drawMany service.ids buffered.covers,
    Buffer.sum_filter_key buffered.inflight.nodup]

theorem endFlush_buffered (trigger : Trigger) (records : List NewUsage)
    (buffered : Buffered service (.writing records)) :
    Buffered (service.endFlush trigger records).2 .queued ∧
      Conserves service (service.endFlush trigger records).2 fun _ => 0 := by
  have covers : records.map NewUsage.entry = service.tracker.inflight := buffered.covers
  rcases service.endFlush_cases trigger records with ⟨_, _, tracker, store, _⟩ |
    ⟨_, _, tracker, store, _⟩
  -- The rows are stored, and the slot is empty.
  · have entries := entries_drawMany service.ids covers
    have written : ∀ key, (service.endFlush trigger records).2.store.stored key =
        service.store.stored key + service.tracker.inflight.get key := by
      intro key
      rw [store, stored_of_written buffered]
    refine ⟨⟨?_, ?_, trivial⟩, ?_, fun key => ?_, fun key => ?_⟩
    · rw [tracker]
      exact buffered.live
    · rw [tracker]
      exact Buffer.wellFormed_nil
    · rw [store, Store.contents_appendUsage]
      intro content member
      rcases List.mem_append.mp member with earlier | fresh
      · exact .inl earlier
      · obtain ⟨entry, found, rfl⟩ := List.mem_map.mp fresh
        have slot : entry.2.entry ∈ service.tracker.inflight :=
          entries ▸ List.mem_map_of_mem (f := fun entry => entry.2.entry) found
        exact .inr (buffered.inflight.amounts entry.2.entry slot)
    · rw [written]
      have bounds := Buffer.get_bounds buffered.inflight key
      omega
    · have kept : (service.endFlush trigger records).2.unstored key =
          service.tracker.live.get key := by
        simp [unstored, tracker, Tracker.land, Buffer.get_nil]
      rw [written, kept]
      unfold unstored
      constructor <;> omega
  -- The slot goes back into the live buffer, where sums may be cut off.
  · refine ⟨⟨?_, ?_, trivial⟩, conserves_of_contents (congrArg Store.contents store) fun key => ?_⟩
    · rw [tracker]
      exact Buffer.wellFormed_merge buffered.live buffered.inflight
    · rw [tracker]
      exact Buffer.wellFormed_nil
    · have merged := merge_carries buffered.live buffered.inflight key
      simpa [unstored, tracker, Tracker.requeue, Buffer.get_nil] using merged

end Service

def FlushStep.stage : FlushStep → Flush
  | .running flush => flush
  | .finished _ => .queued

theorem Service.stepFlush_buffered {service : Service} {stage : Flush} (trigger : Trigger)
    (buffered : Buffered service stage) :
    Buffered (service.stepFlush trigger stage).2 (service.stepFlush trigger stage).1.stage ∧
      Conserves service (service.stepFlush trigger stage).2 fun _ => 0 := by
  cases stage with
  | queued =>
      obtain ⟨begun, conserves⟩ := beginFlush_buffered buffered
      unfold stepFlush
      dsimp only
      split
      · exact ⟨begun, conserves⟩
      · exact ⟨⟨begun.live, begun.inflight, rfl⟩, conserves⟩
  | stamping now records rest =>
      have covers : records.map NewUsage.entry ++ rest = service.tracker.inflight := buffered.covers
      cases rest with
      | nil =>
          refine ⟨⟨buffered.live, buffered.inflight, ?_⟩, .refl service⟩
          simpa [stepFlush, FlushStep.stage, Flush.Covers] using covers
      | cons entry rest =>
          have stamped : (service.stamp now records entry).entry = entry := rfl
          refine ⟨⟨buffered.live, buffered.inflight, ?_⟩, .refl service⟩
          simpa [stepFlush, FlushStep.stage, Flush.Covers, stamped] using covers
  | writing records => exact endFlush_buffered trigger records buffered

namespace Pipeline

variable {pipeline : Pipeline}

structure Buffered (pipeline : Pipeline) : Prop where
  exclusive : pipeline.Exclusive
  service : pipeline.service.Buffered pipeline.stage

structure Balanced (pipeline : Pipeline) : Prop where
  exclusive : pipeline.Exclusive
  service : pipeline.service.Balanced pipeline.stage

theorem buffered_of_empty (live : pipeline.service.tracker.live = [])
    (inflight : pipeline.service.tracker.inflight = []) (jobs : pipeline.jobs = []) :
    pipeline.Buffered := by
  refine ⟨?_, ?_, ?_, ?_⟩
  · simp [Exclusive, jobs]
  · rw [live]
    exact Buffer.wellFormed_nil
  · rw [inflight]
    exact Buffer.wellFormed_nil
  · rw [stage_of_nil jobs]
    trivial

theorem Fresh.balanced (fresh : pipeline.Fresh) : pipeline.Balanced := by
  obtain ⟨exclusive, live, inflight, covers⟩ :=
    buffered_of_empty fresh.live fresh.inflight fresh.jobs
  exact ⟨exclusive, live, inflight, by simp [Store.contents, fresh.usage], covers⟩

theorem Fresh.held (fresh : pipeline.Fresh) (key : UsageKey) : pipeline.service.held key = 0 := by
  simp [Service.held, Store.stored, fresh.usage, fresh.live, fresh.inflight, Buffer.get_nil]

theorem deliver_jobs (flusher : Flusher) (result : Except Fault FlushReport) :
    (pipeline.deliver flusher result).2.jobs = pipeline.jobs := by
  cases flusher <;> rfl

theorem deliver_service (flusher : Flusher) (result : Except Fault FlushReport) :
    (pipeline.deliver flusher result).2.service = pipeline.service := by
  cases flusher <;> rfl

theorem work_of_running {job : Job} {rest : List Job} {next : Flush}
    (jobs : pipeline.jobs = job :: rest)
    (runs : (pipeline.service.stepFlush job.trigger job.stage).1 = .running next) :
    (pipeline.perform .work).2 =
      { pipeline with
        service := (pipeline.service.stepFlush job.trigger job.stage).2
        jobs := { job with stage := next } :: rest } := by
  rcases step : pipeline.service.stepFlush job.trigger job.stage with ⟨_, service⟩
  rw [step] at runs
  subst runs
  simp [perform, jobs, step]

theorem work_of_finished {job : Job} {rest : List Job} {result : Except Fault FlushReport}
    (jobs : pipeline.jobs = job :: rest)
    (ends : (pipeline.service.stepFlush job.trigger job.stage).1 = .finished result) :
    (pipeline.perform .work).2 =
      ({ pipeline with
        service := (pipeline.service.stepFlush job.trigger job.stage).2
        jobs := rest }.deliver job.flusher result).2 := by
  rcases step : pipeline.service.stepFlush job.trigger job.stage with ⟨_, service⟩
  rw [step] at ends
  subst ends
  simp [perform, jobs, step]

theorem work_cases (pipeline : Pipeline) :
    (pipeline.jobs = [] ∧ (pipeline.perform .work).2 = pipeline) ∨
    ∃ job rest, pipeline.jobs = job :: rest ∧
      (pipeline.perform .work).2.service =
        (pipeline.service.stepFlush job.trigger job.stage).2 ∧
      ((∃ next, (pipeline.service.stepFlush job.trigger job.stage).1 = .running next ∧
          (pipeline.perform .work).2.jobs = { job with stage := next } :: rest) ∨
        (∃ result, (pipeline.service.stepFlush job.trigger job.stage).1 = .finished result ∧
          (pipeline.perform .work).2.jobs = rest)) := by
  cases jobs : pipeline.jobs with
  | nil => exact .inl ⟨rfl, by simp [perform, jobs]⟩
  | cons job rest =>
      refine .inr ⟨job, rest, rfl, ?_⟩
      cases step : (pipeline.service.stepFlush job.trigger job.stage).1 with
      | running next =>
          rw [work_of_running jobs step]
          exact ⟨rfl, .inl ⟨next, rfl, rfl⟩⟩
      | finished result =>
          rw [work_of_finished jobs step, deliver_jobs, deliver_service]
          exact ⟨rfl, .inr ⟨result, rfl, rfl⟩⟩

theorem work_buffered (buffered : pipeline.Buffered) : (pipeline.perform .work).2.Buffered ∧
    pipeline.service.Conserves (pipeline.perform .work).2.service fun _ => 0 := by
  rcases pipeline.work_cases with ⟨_, idle⟩ | ⟨job, rest, jobs, service, running⟩
  · rw [idle]
    exact ⟨buffered, .refl pipeline.service⟩
  · have holder : pipeline.service.Buffered job.stage := stage_of_cons jobs ▸ buffered.service
    have waiting := buffered.exclusive.rest jobs
    obtain ⟨stepped, conserves⟩ := Service.stepFlush_buffered job.trigger holder
    rw [← service] at stepped conserves
    refine ⟨?_, conserves⟩
    rcases running with ⟨next, step, queue⟩ | ⟨result, step, queue⟩
    · refine ⟨?_, ?_⟩
      · intro other member
        exact waiting other (by simpa [queue] using member)
      · rw [step] at stepped
        rw [stage_of_cons queue]
        exact stepped
    · refine ⟨?_, ?_⟩
      · intro other member
        exact waiting other (List.mem_of_mem_tail (by simpa [queue] using member))
      · rw [step] at stepped
        rw [buffered.exclusive.stage_of_done jobs queue]
        exact stepped

theorem Reorders.buffered {after : Pipeline} (reorders : Reorders pipeline after)
    (buffered : pipeline.Buffered) :
    after.Buffered ∧ pipeline.service.Conserves after.service fun _ => 0 := by
  obtain ⟨wakeup, closed, service⟩ := reorders.service
  have same : after.service.Buffered pipeline.stage := by
    rw [service]
    exact ⟨buffered.service.live, buffered.service.inflight, buffered.service.covers⟩
  constructor
  · refine ⟨reorders.exclusive buffered.exclusive, ?_⟩
    rcases reorders.stage buffered.exclusive with kept | queued
    · rwa [kept]
    · rw [queued]
      exact same.unlock
  · rw [service]
    exact Service.conserves_of_contents rfl fun _ => Carries.refl _

theorem Surrounds.buffered {after : Pipeline} (surrounds : Surrounds pipeline after)
    (buffered : pipeline.Buffered) :
    after.Buffered ∧ pipeline.service.Conserves after.service fun _ => 0 := by
  obtain ⟨jobs, tracker, contents⟩ := surrounds
  have stage : after.stage = pipeline.stage := by simp [Pipeline.stage, jobs]
  refine ⟨⟨?_, ?_⟩, Service.conserves_of_contents contents fun key => ?_⟩
  · unfold Exclusive
    rw [jobs]
    exact buffered.exclusive
  · rw [stage]
    refine ⟨?_, ?_, ?_⟩
    · rw [tracker]
      exact buffered.service.live
    · rw [tracker]
      exact buffered.service.inflight
    · rw [tracker]
      exact buffered.service.covers
  · unfold Service.unstored
    rw [tracker]
    exact Carries.refl _

/-- No move loses a unit or makes one, as long as the amounts fit. -/
theorem after_buffered (buffered : pipeline.Buffered) (move : Move) :
    (pipeline.after move).Buffered ∧ pipeline.service.Conserves (pipeline.after move).service
      fun key => pipeline.accepts key move := by
  rcases pipeline.after_cases move with ⟨key, quantity, result, brings⟩ | ⟨rfl, brings⟩ |
    ⟨reorders | surrounds, brings⟩
  · obtain ⟨booked, conserves⟩ := Service.track_buffered buffered.service key quantity
    rw [funext brings, result]
    exact ⟨⟨buffered.exclusive, booked⟩, conserves⟩
  · rw [funext brings]
    exact work_buffered buffered
  · rw [funext brings]
    exact reorders.buffered buffered
  · rw [funext brings]
    exact surrounds.buffered buffered

theorem afterAll_buffered (buffered : pipeline.Buffered) (moves : List Move) :
    (pipeline.afterAll moves).Buffered ∧ pipeline.service.Conserves (pipeline.afterAll moves).service
      fun key => pipeline.accepted key moves := by
  induction moves generalizing pipeline with
  | nil => exact ⟨buffered, .refl pipeline.service⟩
  | cons move moves ih =>
      obtain ⟨moved, first⟩ := after_buffered buffered move
      obtain ⟨ended, rest⟩ := ih moved
      exact ⟨ended, first.trans rest⟩

theorem Balanced.buffered (balanced : pipeline.Balanced) : pipeline.Buffered :=
  ⟨balanced.exclusive, balanced.service.buffered⟩

theorem after_balanced (balanced : pipeline.Balanced) (move : Move) :
    (pipeline.after move).Balanced ∧ ∀ key, Carries (pipeline.service.held key)
      (pipeline.accepts key move) ((pipeline.after move).service.held key) := by
  obtain ⟨moved, conserves⟩ := after_buffered balanced.buffered move
  exact ⟨⟨moved.exclusive, conserves.balanced moved.service balanced.service⟩,
    conserves.held balanced.service⟩

theorem afterAll_balanced (balanced : pipeline.Balanced) (moves : List Move) :
    (pipeline.afterAll moves).Balanced ∧ ∀ key, Carries (pipeline.service.held key)
      (pipeline.accepted key moves) ((pipeline.afterAll moves).service.held key) := by
  obtain ⟨moved, conserves⟩ := afterAll_buffered balanced.buffered moves
  exact ⟨⟨moved.exclusive, conserves.balanced moved.service balanced.service⟩,
    conserves.held balanced.service⟩

theorem Fresh.afterAll (fresh : pipeline.Fresh) (moves : List Move) :
    (pipeline.afterAll moves).Balanced ∧ ∀ key, Carries 0 (pipeline.accepted key moves)
      ((pipeline.afterAll moves).service.held key) := by
  obtain ⟨balanced, carries⟩ := afterAll_balanced fresh.balanced moves
  exact ⟨balanced, fun key => fresh.held key ▸ carries key⟩

end Pipeline

end UsageBilling
