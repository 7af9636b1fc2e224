import UsageBilling.Proofs.Tracker.Conservation
/-!
A tracker that is closed. Nobody opens it again and it accepts nothing, so a flush that takes its
snapshot now leaves the live buffer empty behind it. When such a flush succeeds both buffers are empty,
and they stay so.
-/
namespace UsageBilling

namespace Service

variable {service : Service} {trigger : Trigger} {stage : Flush}

theorem track_of_closed (closed : service.tracker.closed = true) (key : UsageKey) (quantity : Nat) :
    service.track key quantity = (.error .closed, service) := by
  unfold track
  rw [if_pos closed]

theorem track_closed (service : Service) (key : UsageKey) (quantity : Nat) :
    (service.track key quantity).2.tracker.closed = service.tracker.closed := by
  rcases service.track_cases key quantity with ⟨_, refused⟩ | ⟨_, _, idle⟩ |
    ⟨_, _, _, tracker, _, _⟩
  · rw [refused]
  · rw [idle]
  · rw [tracker]
    rfl

theorem live_of_running {next : Flush} (swept : stage = .queued ∨ service.tracker.live = [])
    (running : (service.stepFlush trigger stage).1 = .running next) :
    (service.stepFlush trigger stage).2.tracker.live = [] := by
  cases stage with
  | queued =>
      unfold stepFlush
      dsimp only
      split <;> rfl
  | stamping now records rest =>
      have live : service.tracker.live = [] := swept.resolve_left (by simp)
      cases rest <;> exact live
  | writing records => simp [stepFlush] at running

theorem empty_of_success {report : FlushReport}
    (swept : stage = .queued ∨ service.tracker.live = [])
    (success : (service.stepFlush trigger stage).1 = .finished (.ok report)) :
    (service.stepFlush trigger stage).2.tracker.live = [] ∧
      (service.stepFlush trigger stage).2.tracker.inflight = [] := by
  cases stage with
  | queued =>
      unfold stepFlush at success ⊢
      dsimp only at success ⊢
      split at success
      · rename_i empty
        rw [if_pos empty]
        exact ⟨rfl, List.isEmpty_iff.mp empty⟩
      · cases success
  | stamping now records rest => cases rest <;> cases success
  | writing records =>
      have live : service.tracker.live = [] := swept.resolve_left (by simp)
      have ended : (service.endFlush trigger records).1 = .ok report := FlushStep.finished.inj success
      change (service.endFlush trigger records).2.tracker.live = [] ∧
        (service.endFlush trigger records).2.tracker.inflight = []
      rcases service.endFlush_cases trigger records with ⟨_, _, tracker, _, _⟩ |
        ⟨_, failed, _, _, _⟩
      · rw [tracker]
        exact ⟨live, rfl⟩
      · rw [failed] at ended
        cases ended

theorem stepFlush_of_empty (live : service.tracker.live = []) (inflight : service.tracker.inflight = [])
    (trigger : Trigger) :
    service.stepFlush trigger .queued = (.finished (.ok {}), service.beginFlush) := by
  have empty : service.beginFlush.tracker.inflight = [] := by
    simp [beginFlush, Tracker.snapshot, Tracker.requeue, live, inflight, Buffer.merge_nil]
  simp [stepFlush, empty]

end Service

namespace Pipeline

variable {pipeline : Pipeline} {flusher : Flusher}

theorem closed_perform (pipeline : Pipeline) (event : Event) :
    (pipeline.perform event).2.service.tracker.closed = true ↔
      pipeline.service.tracker.closed = true ∨ event = .close := by
  have effect := pipeline.effect event
  generalize pipeline.perform event = performed at effect ⊢
  cases effect with
  | booked key quantity => simp [Service.track_closed]
  | worked =>
      rcases pipeline.work_cases with ⟨_, idle⟩ | ⟨job, rest, _, service, _⟩
      · simp [idle]
      · simp [service, (Service.sameButUsage_stepFlush _ _ _).closed]
  | closes => simp [withTracker]
  | stopped closed | refused closed => simp [closed]
  | early waits => rcases waits with rfl | rfl | rfl | rfl <;> simp
  | _ => simp [enqueue, withTracker, without]

theorem closed_after (pipeline : Pipeline) (move : Move) :
    (pipeline.after move).service.tracker.closed = true ↔
      pipeline.service.tracker.closed = true ∨ move = .event .close := by
  cases move with
  | event event =>
      change (pipeline.perform event).2.service.tracker.closed = true ↔ _
      rw [closed_perform, Move.event.injEq]
  | act action =>
      rcases pipeline.after_act_cases action with ⟨key, quantity, rfl⟩ | rfl | ⟨_, result, keeps⟩
      · change (pipeline.service.track key quantity).2.tracker.closed = true ↔ _
        simp [Service.track_closed]
      · simp [after]
      · simp [result, keeps.tracker]
  | drop flusher => cases flusher <;> simp [after, abandon, without]
  | put row => simp [after, withStore]
  | switch method down => simp [after, withStore]
  | clock now => simp [after]
  | backend backend => simp [after]

theorem closed_afterAll (pipeline : Pipeline) (moves : List Move) :
    (pipeline.afterAll moves).service.tracker.closed = true ↔
      pipeline.service.tracker.closed = true ∨ .event .close ∈ moves := by
  induction moves generalizing pipeline with
  | nil => simp [afterAll]
  | cons move moves ih =>
      rw [afterAll_cons, ih, closed_after, List.mem_cons, or_assoc, @eq_comm _ move]

theorem accepts_of_closed (closed : pipeline.service.tracker.closed = true) (key : UsageKey)
    (move : Move) : pipeline.accepts key move = 0 := by
  unfold accepts
  split
  · rw [Service.track_of_closed closed]
    simp [Except.isOk, Except.toBool]
  · rw [Service.track_of_closed closed]
    simp [Except.isOk, Except.toBool]
  · rfl

theorem accepted_of_closed (closed : pipeline.service.tracker.closed = true) (key : UsageKey)
    (moves : List Move) : pipeline.accepted key moves = 0 := by
  induction moves generalizing pipeline with
  | nil => rfl
  | cons move moves ih =>
      have later : (pipeline.after move).service.tracker.closed = true :=
        (pipeline.closed_after move).mpr (.inl closed)
      rw [accepted, accepts_of_closed closed, ih later]

theorem Reorders.mem_jobs {after : Pipeline} (reorders : Reorders pipeline after) {job : Job}
    (member : job ∈ after.jobs) : job ∈ pipeline.jobs ∨ job.stage = .queued := by
  rcases reorders.jobs with same | ⟨other, trigger, joined⟩ | ⟨other, left⟩
  · exact .inl (same ▸ member)
  · rw [joined] at member
    rcases List.mem_append.mp member with earlier | last
    · exact .inl earlier
    · exact .inr (by rw [List.mem_singleton.mp last])
  · rw [left] at member
    exact .inl (List.mem_of_mem_filter member)

/-- The flushes of `flusher` that have taken their snapshot have left nothing in the live buffer. -/
def Swept (pipeline : Pipeline) (flusher : Flusher) : Prop :=
  ∀ job ∈ pipeline.jobs, job.flusher = flusher →
    job.stage = .queued ∨ pipeline.service.tracker.live = []

def Unbegun (pipeline : Pipeline) (flusher : Flusher) : Prop :=
  ∀ job ∈ pipeline.jobs, job.flusher = flusher → job.stage = .queued

theorem Unbegun.swept (unbegun : pipeline.Unbegun flusher) : pipeline.Swept flusher := by
  intro job member own
  exact .inl (unbegun job member own)

theorem Swept.work (swept : pipeline.Swept flusher) (exclusive : pipeline.Exclusive) :
    (pipeline.perform .work).2.Swept flusher := by
  rcases pipeline.work_cases with ⟨_, idle⟩ | ⟨first, rest, jobs, service, running⟩
  · rwa [idle]
  have waiting := exclusive.rest jobs
  intro job member own
  rcases running with ⟨next, step, queue⟩ | ⟨result, step, queue⟩
  · rw [queue] at member
    rcases List.mem_cons.mp member with rfl | later
    · have before := swept first (by simp [jobs]) own
      right
      rw [service]
      exact Service.live_of_running before step
    · exact .inl (waiting job later)
  · rw [queue] at member
    exact .inl (waiting job member)

theorem Swept.after (swept : pipeline.Swept flusher) (exclusive : pipeline.Exclusive)
    (closed : pipeline.service.tracker.closed = true) (move : Move) :
    (pipeline.after move).Swept flusher := by
  rcases pipeline.after_cases move with ⟨key, quantity, result, _⟩ | ⟨rfl, _⟩ |
    ⟨reorders | surrounds, _⟩
  · rw [result, Service.track_of_closed closed]
    exact swept
  · exact swept.work exclusive
  · intro job member own
    obtain ⟨wakeup, closed, service⟩ := reorders.service
    rw [service]
    rcases reorders.mem_jobs member with earlier | queued
    · exact swept job earlier own
    · exact .inl queued
  · intro job member own
    rw [surrounds.tracker]
    exact swept job (surrounds.jobs ▸ member) own

/-- The tracker is closed, and swept as far as `flusher` is concerned. -/
structure Sweeping (pipeline : Pipeline) (flusher : Flusher) : Prop where
  buffered : pipeline.Buffered
  closed : pipeline.service.tracker.closed = true
  swept : pipeline.Swept flusher

theorem Sweeping.after (sweeping : pipeline.Sweeping flusher) (move : Move) :
    (pipeline.after move).Sweeping flusher :=
  ⟨(after_buffered sweeping.buffered move).1, (pipeline.closed_after move).mpr (.inl sweeping.closed),
    sweeping.swept.after sweeping.buffered.exclusive sweeping.closed move⟩

theorem Sweeping.afterAll (sweeping : pipeline.Sweeping flusher) (moves : List Move) :
    (pipeline.afterAll moves).Sweeping flusher := by
  induction moves generalizing pipeline with
  | nil => exact sweeping
  | cons move moves ih => exact ih (sweeping.after move)

structure Drained (pipeline : Pipeline) : Prop where
  closed : pipeline.service.tracker.closed = true
  live : pipeline.service.tracker.live = []
  inflight : pipeline.service.tracker.inflight = []
  waiting : ∀ job ∈ pipeline.jobs, job.stage = .queued

theorem Drained.unstored (drained : pipeline.Drained) (key : UsageKey) :
    pipeline.service.unstored key = 0 := by
  simp [Service.unstored, drained.live, drained.inflight, Buffer.get_nil]

theorem Drained.work (drained : pipeline.Drained) : (pipeline.perform .work).2.Drained ∧
    (pipeline.perform .work).2.service.store = pipeline.service.store := by
  have closed : (pipeline.perform .work).2.service.tracker.closed = true :=
    (pipeline.closed_perform .work).mpr (.inl drained.closed)
  rcases pipeline.work_cases with ⟨_, idle⟩ | ⟨job, rest, jobs, service, running⟩
  · rw [idle]
    exact ⟨drained, rfl⟩
  have queued : job.stage = .queued := drained.waiting job (by simp [jobs])
  have step := Service.stepFlush_of_empty drained.live drained.inflight job.trigger
  rw [queued, step] at service running
  rcases running with ⟨next, goesOn, _⟩ | ⟨result, _, queue⟩
  · cases goesOn
  · refine ⟨⟨closed, ?_, ?_, ?_⟩, ?_⟩
    · rw [service]
      rfl
    · rw [service]
      simp [Service.beginFlush, Tracker.snapshot, Tracker.requeue, drained.live, drained.inflight,
        Buffer.merge_nil]
    · intro other member
      exact drained.waiting other (by simp [jobs, queue ▸ member])
    · rw [service]
      rfl

theorem Drained.after (drained : pipeline.Drained) (move : Move) :
    (pipeline.after move).Drained ∧
      (pipeline.after move).service.store.contents = pipeline.service.store.contents := by
  have closed : (pipeline.after move).service.tracker.closed = true :=
    (pipeline.closed_after move).mpr (.inl drained.closed)
  rcases pipeline.after_cases move with ⟨key, quantity, result, _⟩ | ⟨rfl, _⟩ |
    ⟨reorders | surrounds, _⟩
  · rw [result, Service.track_of_closed drained.closed]
    exact ⟨drained, rfl⟩
  · obtain ⟨worked, store⟩ := drained.work
    exact ⟨worked, congrArg Store.contents store⟩
  · obtain ⟨wakeup, flag, service⟩ := reorders.service
    refine ⟨⟨closed, ?_, ?_, ?_⟩, ?_⟩
    · rw [service]
      exact drained.live
    · rw [service]
      exact drained.inflight
    · intro job member
      exact (reorders.mem_jobs member).elim (drained.waiting job) id
    · rw [service]
  · refine ⟨⟨closed, ?_, ?_, ?_⟩, surrounds.contents⟩
    · rw [surrounds.tracker]
      exact drained.live
    · rw [surrounds.tracker]
      exact drained.inflight
    · rw [surrounds.jobs]
      exact drained.waiting

theorem Drained.afterAll (drained : pipeline.Drained) (moves : List Move) :
    (pipeline.afterAll moves).Drained ∧
      (pipeline.afterAll moves).service.store.contents = pipeline.service.store.contents := by
  induction moves generalizing pipeline with
  | nil => exact ⟨drained, rfl⟩
  | cons move moves ih =>
      obtain ⟨next, contents⟩ := drained.after move
      obtain ⟨last, kept⟩ := ih next
      exact ⟨last, kept.trans contents⟩

def Succeeds (pipeline : Pipeline) (flusher : Flusher) : Prop :=
  ∃ job rest report, pipeline.jobs = job :: rest ∧ job.flusher = flusher ∧
    (pipeline.service.stepFlush job.trigger job.stage).1 = .finished (.ok report)

/-- A flush that took its snapshot of a closed tracker leaves nothing when it succeeds. -/
theorem Sweeping.drained (sweeping : pipeline.Sweeping flusher)
    (succeeds : pipeline.Succeeds flusher) : (pipeline.perform .work).2.Drained := by
  obtain ⟨job, rest, report, jobs, own, success⟩ := succeeds
  have swept := sweeping.swept job (by simp [jobs]) own
  obtain ⟨live, inflight⟩ := Service.empty_of_success swept success
  have closed : (pipeline.perform .work).2.service.tracker.closed = true :=
    (pipeline.closed_perform .work).mpr (.inl sweeping.closed)
  rcases pipeline.work_cases with ⟨none, _⟩ | ⟨first, others, queue, service, running⟩
  · rw [jobs] at none
    cases none
  obtain ⟨rfl, rfl⟩ := List.cons.inj (jobs.symm.trans queue)
  rw [← service] at live inflight
  refine ⟨closed, live, inflight, ?_⟩
  rcases running with ⟨next, goesOn, _⟩ | ⟨result, _, left⟩
  · rw [success] at goesOn
    cases goesOn
  · intro other member
    exact sweeping.buffered.exclusive other (by simpa [jobs, left] using member)

end Pipeline

end UsageBilling
