import UsageBilling.Proofs.Tracker.Sweeping
import UsageBilling.Proofs.Tracker.Unflushed
/-!
Closing a tracker. One closing gets past the check of the flag; it has an answer when its flush has
ended, or when its time is up. What it answers holds of the tracker, and every unit that was accepted
can be accounted for, as long as the amounts fit into 64 bits.
-/
namespace UsageBilling

open Quantity

namespace Service

variable {start service : Service} {stage : Flush} {accepted : UsageKey → Nat}

theorem Buffered.tracker (buffered : Buffered service stage) : service.tracker.WellFormed :=
  ⟨buffered.live, buffered.inflight⟩

def accountedSince (start service : Service) (key : UsageKey) : Int :=
  service.store.stored key - start.store.stored key + service.tracker.pending key

def Accounts (start service : Service) (accepted : UsageKey → Nat) : Prop :=
  ∀ key, Carries 0 (accepted key) (start.accountedSince service key)

/-- Only what does not fit into an amount is cut off where the two buffers are added up. -/
theorem Conserves.accounts (conserves : Conserves start service accepted)
    (empty : ∀ key, start.unstored key = 0) (buffered : Buffered service stage) :
    start.Accounts service accepted := by
  intro key
  have grows := conserves.grows key
  have pending := Tracker.pending_eq_min buffered.tracker key
  obtain ⟨upper, lower⟩ := conserves.carries key
  rw [empty] at upper lower
  unfold unstored at upper lower
  unfold accountedSince
  constructor <;> omega

end Service

namespace Pipeline

variable {pipeline start : Pipeline} {event : Event}

structure Unclosing (pipeline : Pipeline) : Prop where
  closing : pipeline.closing = none
  jobs : ∀ job ∈ pipeline.jobs, job.flusher ≠ .closing

structure Opened (pipeline : Pipeline) : Prop where
  live : pipeline.service.tracker.live = []
  inflight : pipeline.service.tracker.inflight = []
  closed : pipeline.service.tracker.closed = false
  jobs : pipeline.jobs = []
  closing : pipeline.closing = none

theorem closing_deliver (flusher : Flusher) (result : Except Fault FlushReport)
    (idle : pipeline.closing = none) : (pipeline.deliver flusher result).2.closing = none := by
  cases flusher with
  | scheduler => exact idle
  | caller id => exact idle
  | closing => rfl

theorem closing_work (idle : pipeline.closing = none) :
    (pipeline.perform .work).2.closing = none := by
  unfold perform
  dsimp only
  split
  · exact idle
  · split
    · exact idle
    · exact closing_deliver _ _ idle

theorem Unclosing.work (unclosing : pipeline.Unclosing) : (pipeline.perform .work).2.Unclosing := by
  obtain ⟨closing, jobs⟩ := unclosing
  refine ⟨closing_work closing, ?_⟩
  rcases pipeline.work_cases with ⟨_, idle⟩ | ⟨job, rest, queue, _, running⟩
  · rwa [idle]
  have own : job.flusher ≠ .closing := jobs job (by simp [queue])
  have others : ∀ waiting ∈ rest, waiting.flusher ≠ .closing := by
    intro waiting member
    exact jobs waiting (by simp [queue, member])
  rcases running with ⟨next, _, left⟩ | ⟨result, _, left⟩
  · rw [left]
    exact List.forall_mem_cons.mpr ⟨own, others⟩
  · rw [left]
    exact others

theorem Unclosing.perform (unclosing : pipeline.Unclosing) (other : event ≠ .close) :
    (pipeline.perform event).2.Unclosing := by
  obtain ⟨closing, jobs⟩ := unclosing
  have enqueued : ∀ (flusher : Flusher) (trigger : Trigger), flusher ≠ .closing →
      ∀ job ∈ pipeline.jobs ++ [Job.mk flusher trigger .queued], job.flusher ≠ .closing := by
    intro flusher trigger different job member
    rcases List.mem_append.mp member with earlier | last
    · exact jobs job earlier
    · rw [List.mem_singleton.mp last]
      exact different
  have effect := pipeline.effect event
  generalize pipeline.perform event = performed at effect ⊢
  cases effect with
  | called | ticked | woken => exact ⟨closing, enqueued _ _ (by simp)⟩
  | worked => exact Unclosing.work ⟨closing, jobs⟩
  | abandoned => exact ⟨closing, fun job member => jobs job (List.mem_of_mem_filter member)⟩
  | closes | refused => exact absurd rfl other
  | joined waits => simp [closing] at waits
  | expired limitSecs waits => simp [closing] at waits
  | booked | stopped | unclosing | early => exact ⟨closing, jobs⟩

theorem Unclosing.after (unclosing : pipeline.Unclosing) {move : Move}
    (other : move ≠ .event .close) : (pipeline.after move).Unclosing := by
  cases move with
  | event event => exact unclosing.perform fun same => other (congrArg Move.event same)
  | act action => cases action <;> exact ⟨unclosing.closing, unclosing.jobs⟩
  | drop flusher =>
      have fewer : ∀ job ∈ (pipeline.without flusher).jobs, job.flusher ≠ .closing :=
        fun job member => unclosing.jobs job (List.mem_of_mem_filter member)
      cases flusher with
      | scheduler => exact ⟨unclosing.closing, fewer⟩
      | caller id => exact ⟨unclosing.closing, fewer⟩
      | closing => exact ⟨rfl, fewer⟩
  | put row => exact ⟨unclosing.closing, unclosing.jobs⟩
  | switch method down => exact ⟨unclosing.closing, unclosing.jobs⟩
  | clock now => exact ⟨unclosing.closing, unclosing.jobs⟩
  | backend backend => exact ⟨unclosing.closing, unclosing.jobs⟩

/-- A closing is under way only in a closed tracker, and its flush takes its snapshot of one. -/
structure Guarded (pipeline : Pipeline) : Prop where
  buffered : pipeline.Buffered
  unclosing : pipeline.service.tracker.closed = false → pipeline.Unclosing
  swept : pipeline.Swept .closing

theorem Opened.buffered (opened : pipeline.Opened) : pipeline.Buffered :=
  buffered_of_empty opened.live opened.inflight opened.jobs

theorem Opened.unstored (opened : pipeline.Opened) (key : UsageKey) :
    pipeline.service.unstored key = 0 := by
  simp [Service.unstored, opened.live, opened.inflight, Buffer.get_nil]

theorem Opened.guarded (opened : pipeline.Opened) : pipeline.Guarded := by
  have idle : ∀ job ∈ pipeline.jobs, job.flusher ≠ .closing := by simp [opened.jobs]
  exact ⟨opened.buffered, fun _ => ⟨opened.closing, idle⟩,
    fun job member own => absurd own (idle job member)⟩

theorem Guarded.after (guarded : pipeline.Guarded) (move : Move) : (pipeline.after move).Guarded := by
  have buffered := (after_buffered guarded.buffered move).1
  cases closed : pipeline.service.tracker.closed with
  | true =>
      have stays := (pipeline.closed_after move).mpr (.inl closed)
      refine ⟨buffered, fun opened => ?_, guarded.swept.after guarded.buffered.exclusive closed move⟩
      rw [stays] at opened
      cases opened
  | false =>
      have unclosing := guarded.unclosing closed
      -- A closing that begins now has no flush yet, and without it there is no closing at all.
      by_cases closes : move = .event .close
      · subst closes
        have jobs : (pipeline.after (.event .close)).jobs = pipeline.jobs := by
          simp [Pipeline.after, perform, closed, withTracker]
        refine ⟨buffered, fun opened => ?_, fun job member own => ?_⟩
        · rw [(pipeline.closed_after (.event .close)).mpr (.inr rfl)] at opened
          cases opened
        · rw [jobs] at member
          exact absurd own (unclosing.jobs job member)
      · have next := unclosing.after closes
        exact ⟨buffered, fun _ => next, fun job member own => absurd own (next.jobs job member)⟩

theorem Guarded.afterAll (guarded : pipeline.Guarded) (moves : List Move) :
    (pipeline.afterAll moves).Guarded := by
  induction moves generalizing pipeline with
  | nil => exact guarded
  | cons move moves ih => exact ih (guarded.after move)

/-- Where and what a closing can answer: at the check, at the end of its flush, or out of time. -/
theorem answer_cases {result : Except Tracker.Error FlushReport}
    (told : (pipeline.perform event).1 = some (.closed result)) :
    (event = .close ∧ result = .error .closed) ∨
    (event = .work ∧ ∃ job rest outcome, pipeline.jobs = job :: rest ∧ job.flusher = .closing ∧
      (pipeline.service.stepFlush job.trigger job.stage).1 = .finished outcome ∧
      result = closingResult (pipeline.perform event).2.service.tracker outcome) ∨
    ∃ limitSecs, event = .expire limitSecs ∧ pipeline.closing.isSome ∧
      (pipeline.perform event).2.service = pipeline.service ∧
      result = .error (.timedOut limitSecs pipeline.service.tracker.unflushedKeys
        pipeline.service.tracker.unflushedQuantity) := by
  have effect := pipeline.effect event
  generalize pipeline.perform event = performed at effect told ⊢
  cases effect with
  | worked =>
      refine .inr (.inl ⟨rfl, ?_⟩)
      cases jobs : pipeline.jobs with
      | nil => simp [perform, jobs] at told
      | cons job rest =>
          rcases step : pipeline.service.stepFlush job.trigger job.stage with ⟨next | outcome, service⟩
          · simp [perform, jobs, step] at told
          · refine ⟨job, rest, outcome, rfl, ?_⟩
            cases flusher : job.flusher with
            | scheduler => simp [perform, jobs, step, flusher, deliver] at told
            | caller id => simp [perform, jobs, step, flusher, deliver] at told
            | closing =>
                simp only [perform, jobs, step, flusher, deliver, Option.some.injEq,
                  Notice.closed.injEq] at told ⊢
                exact ⟨trivial, trivial, told.symm⟩
  | refused =>
      cases told
      exact .inl ⟨rfl, rfl⟩
  | expired limitSecs closing =>
      cases told
      exact .inr (.inr ⟨limitSecs, rfl, closing, rfl, rfl⟩)
  | _ => simp at told

theorem Guarded.closed_of_job (guarded : pipeline.Guarded) {job : Job}
    (member : job ∈ pipeline.jobs) (own : job.flusher = .closing) :
    pipeline.service.tracker.closed = true := by
  cases closed : pipeline.service.tracker.closed with
  | true => rfl
  | false => exact absurd own ((guarded.unclosing closed).jobs job member)

theorem Guarded.closed_of_closing (guarded : pipeline.Guarded)
    (closing : pipeline.closing.isSome = true) : pipeline.service.tracker.closed = true := by
  cases closed : pipeline.service.tracker.closed with
  | true => rfl
  | false =>
      rw [(guarded.unclosing closed).closing] at closing
      cases closing

theorem Guarded.drained (guarded : pipeline.Guarded) {report : FlushReport}
    (told : (pipeline.perform event).1 = some (.closed (.ok report))) :
    (pipeline.perform event).2.Drained := by
  rcases answer_cases told with ⟨_, refused⟩ | ⟨rfl, job, rest, outcome, jobs, own, step, answer⟩ |
    ⟨_, _, _, _, late⟩
  · cases refused
  · have closed := guarded.closed_of_job (by simp [jobs]) own
    cases outcome with
    | error fault => cases answer
    | ok stored =>
        have sweeping : pipeline.Sweeping .closing := ⟨guarded.buffered, closed, guarded.swept⟩
        exact sweeping.drained ⟨job, rest, stored, jobs, own, step⟩
  · cases late

theorem entries_of_finalFlush {entries : Nat} {fault : Fault}
    (told : (pipeline.perform event).1 = some (.closed (.error (.finalFlush entries fault)))) :
    event = .work ∧ entries = (pipeline.perform event).2.service.tracker.unflushedKeys := by
  rcases answer_cases told with ⟨_, refused⟩ | ⟨rfl, job, rest, outcome, _, _, _, answer⟩ |
    ⟨_, _, _, _, late⟩
  · cases refused
  · cases outcome with
    | error other =>
        cases answer
        exact ⟨rfl, rfl⟩
    | ok stored => cases answer
  · cases late

theorem numbers_of_timedOut {limitSecs entries : Nat} {quantity : Int}
    (told : (pipeline.perform event).1 =
      some (.closed (.error (.timedOut limitSecs entries quantity)))) :
    (∃ limitSecs, event = .expire limitSecs) ∧ pipeline.closing.isSome ∧
      (pipeline.perform event).2.service = pipeline.service ∧
      entries = pipeline.service.tracker.unflushedKeys ∧
      quantity = pipeline.service.tracker.unflushedQuantity := by
  rcases answer_cases told with ⟨_, refused⟩ | ⟨rfl, job, rest, outcome, _, _, _, answer⟩ |
    ⟨limit, rfl, closing, service, late⟩
  · cases refused
  · cases outcome <;> cases answer
  · cases late
    exact ⟨⟨_, rfl⟩, closing, service, rfl, rfl⟩

end Pipeline

end UsageBilling
