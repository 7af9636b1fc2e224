import UsageBilling.Service.Flush
/-!
The tracker at work. Flushes wait for each other in the order in which they were begun; the first one
holds the lock. The scheduler begins a flush at a tick of its interval or when it is woken, and after
a failure waits for the next tick. Closing stops the scheduler, waits for its end and flushes once
more. Events may come in any order; one that cannot happen yet changes nothing.
-/
namespace UsageBilling

inductive Flusher where
  | scheduler
  | caller (id : Nat)
  | closing
  deriving DecidableEq, Repr

structure Job where
  flusher : Flusher
  trigger : Trigger
  stage : Flush := .queued
  deriving DecidableEq, Repr

inductive Scheduler where
  /-- For a tick, a wakeup or its end. -/
  | waiting
  | flushing
  /-- For a tick or its end, after a flush that failed. -/
  | retrying
  | stopped
  deriving DecidableEq, Repr

/-- What a closing waits for. -/
inductive Closing where
  | schedulerEnd
  | flushEnd
  deriving DecidableEq, Repr

structure Pipeline where
  service : Service
  jobs : List Job := []
  scheduler : Scheduler := .waiting
  closing : Option Closing := none
  deriving DecidableEq, Inhabited

inductive Notice where
  | tracked (result : Except Tracker.Error Unit)
  | flushed (id : Nat) (result : Except Fault FlushReport)
  | closed (result : Except Tracker.Error FlushReport)

namespace Pipeline

inductive Event where
  | track (key : UsageKey) (quantity : Nat)
  /-- A caller begins a flush. -/
  | flush (caller : Nat)
  /-- The flush that holds the lock takes one step. -/
  | work
  /-- The flush of a caller is dropped. -/
  | abandon (caller : Nat)
  | tick
  | wake
  /-- The scheduler sees that the tracker is closed. -/
  | stop
  | close
  /-- The closing sees that the scheduler has ended. -/
  | join
  /-- The time of the closing is up. -/
  | expire (limitSecs : Nat)
  deriving DecidableEq, Repr

def enqueue (pipeline : Pipeline) (flusher : Flusher) (trigger : Trigger) : Pipeline :=
  { pipeline with jobs := pipeline.jobs ++ [{ flusher, trigger }] }

def withTracker (pipeline : Pipeline) (tracker : Tracker) : Pipeline :=
  { pipeline with service := { pipeline.service with tracker } }

def without (pipeline : Pipeline) (flusher : Flusher) : Pipeline :=
  { pipeline with jobs := pipeline.jobs.filter fun job => job.flusher ≠ flusher }

/-- What a closing answers when its flush has ended. -/
def closingResult (tracker : Tracker) :
    Except Fault FlushReport → Except Tracker.Error FlushReport
  | .ok report => .ok report
  | .error fault => .error (.finalFlush tracker.unflushedKeys fault)

def deliver (pipeline : Pipeline) (flusher : Flusher) (result : Except Fault FlushReport) :
    Option Notice × Pipeline :=
  match flusher with
  | .scheduler =>
    (none, { pipeline with scheduler := if result.isOk then .waiting else .retrying })
  | .caller id => (some (.flushed id result), pipeline)
  | .closing =>
    (some (.closed (closingResult pipeline.service.tracker result)), { pipeline with closing := none })

def perform (pipeline : Pipeline) : Event → Option Notice × Pipeline
  | .track key quantity =>
    let (result, service) := pipeline.service.track key quantity
    (some (.tracked result), { pipeline with service })
  | .flush caller => (none, pipeline.enqueue (.caller caller) .manual)
  | .work =>
    match pipeline.jobs with
    | [] => (none, pipeline)
    | job :: rest =>
      match pipeline.service.stepFlush job.trigger job.stage with
      | (.running stage, service) =>
        (none, { pipeline with service, jobs := { job with stage } :: rest })
      | (.finished result, service) =>
        { pipeline with service, jobs := rest }.deliver job.flusher result
  | .abandon caller => (none, pipeline.without (.caller caller))
  | .tick =>
    match pipeline.scheduler with
    | .waiting => (none, { pipeline with scheduler := .flushing }.enqueue .scheduler .interval)
    | .retrying => (none, { pipeline with scheduler := .flushing }.enqueue .scheduler .retry)
    | _ => (none, pipeline)
  | .wake =>
    let tracker := pipeline.service.tracker
    if pipeline.scheduler = .waiting ∧ tracker.wakeup then
      let woken := { pipeline with scheduler := .flushing }.withTracker { tracker with wakeup := false }
      (none, woken.enqueue .scheduler .threshold)
    else (none, pipeline)
  | .stop =>
    if pipeline.service.tracker.closed ∧
        (pipeline.scheduler = .waiting ∨ pipeline.scheduler = .retrying) then
      (none, { pipeline with scheduler := .stopped })
    else (none, pipeline)
  | .close =>
    let tracker := pipeline.service.tracker
    if tracker.closed then (some (.closed (.error .closed)), pipeline)
    else
      (none, { pipeline with closing := some .schedulerEnd }.withTracker { tracker with closed := true })
  | .join =>
    if pipeline.closing = some .schedulerEnd ∧ pipeline.scheduler = .stopped then
      (none, { pipeline with closing := some .flushEnd }.enqueue .closing .shutdown)
    else (none, pipeline)
  | .expire limitSecs =>
    let tracker := pipeline.service.tracker
    if pipeline.closing.isSome then
      (some (.closed (.error (.timedOut limitSecs tracker.unflushedKeys tracker.unflushedQuantity))),
        { pipeline with closing := none }.without .closing)
    else (none, pipeline)

end Pipeline

end UsageBilling
