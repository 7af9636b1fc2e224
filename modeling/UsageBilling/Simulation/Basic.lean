import UsageBilling.Http.Handlers
import UsageBilling.Reporting
import UsageBilling.Service.Run
import UsageBilling.Tracker.Pipeline
/-!
A service on virtual time, counted in milliseconds. Nothing takes time but a write of usage that is
delayed, and time moves only while somebody sleeps or waits. Whatever can happen at a moment happens
before time moves on. Of alarms for the same moment the caller's own goes first, and then the one that
was set first. The clock on the wall is set apart from virtual time.
-/
namespace UsageBilling

structure Ticker where
  period : Nat
  next : Nat
  /-- When the next alarm was set. -/
  setAt : Nat
  deriving DecidableEq, Repr, Inhabited

namespace Ticker

/-- How late an alarm may be taken without disturbing the rhythm. -/
def leeway : Nat := 5

/-- The alarm after it was taken. One taken too late starts a new rhythm. -/
def take (ticker : Ticker) (time : Nat) : Ticker :=
  let start := if ticker.next + leeway < time then time else ticker.next
  { ticker with next := start + ticker.period, setAt := time }

end Ticker

inductive Reporter where
  | off
  | on (ticker : Ticker)
  | crashed
  deriving DecidableEq, Repr

structure Simulation where
  site : Http.Site
  pipeline : Pipeline
  time : Nat := 0
  /-- The alarm of the scheduler. -/
  ticker : Ticker
  reporter : Reporter := .off
  /-- How long a write of usage takes that begins now. -/
  writeDelay : Nat := 0
  /-- When the write under way began. -/
  writeBegan : Nat := 0
  /-- When the write under way is due. -/
  writeDue : Nat := 0
  /-- How many callers have begun a flush. -/
  callers : Nat := 0
  /-- Results of flushes that nobody has asked for yet. -/
  results : List (Nat × Except Fault FlushReport) := []
  closeResult : Option (Except Tracker.Error FlushReport) := none
  /-- The flush in the background that can be joined or aborted. -/
  background : Option Nat := none

namespace Simulation

def service (simulation : Simulation) : Service := simulation.pipeline.service

def withService (simulation : Simulation) (service : Service) : Simulation :=
  { simulation with pipeline := { simulation.pipeline with service } }

/-- A service at its start. An interval of zero ends the scheduler at once. -/
def start (site : Http.Site) (service : Service) (intervalMillis : Nat) : Simulation where
  site
  pipeline := { service, scheduler := if intervalMillis = 0 then .stopped else .waiting }
  ticker := ⟨intervalMillis, intervalMillis, 0⟩

def note (simulation : Simulation) : Option Notice → Simulation
  | some (.flushed id result) => { simulation with results := simulation.results ++ [(id, result)] }
  | some (.closed result) => { simulation with closeResult := some result }
  | _ => simulation

def isWriting (simulation : Simulation) : Bool :=
  match simulation.pipeline.jobs.head? with
  | some { stage := .writing _, .. } => true
  | _ => false

def perform (simulation : Simulation) (event : Pipeline.Event) : Simulation :=
  let (notice, pipeline) := simulation.pipeline.perform event
  { simulation with pipeline }.note notice

def schedulerListens (simulation : Simulation) : Bool :=
  simulation.pipeline.scheduler = .waiting || simulation.pipeline.scheduler = .retrying

/-- A step of the flush that holds the lock. Where the write begins, the time it takes is fixed. -/
def work (simulation : Simulation) : Simulation :=
  let worked := simulation.perform .work
  if worked.isWriting && !simulation.isWriting then
    { worked with writeBegan := worked.time, writeDue := worked.time + worked.writeDelay }
  else worked

def canWork (simulation : Simulation) : Bool :=
  !simulation.pipeline.jobs.isEmpty &&
    !(simulation.isWriting && simulation.time < simulation.writeDue)

/-- Whether a write that took time ends now, in a flush that the caller does not wait for. -/
def landsUnattended (simulation : Simulation) : Bool :=
  simulation.isWriting && simulation.writeBegan < simulation.time &&
    match simulation.pipeline.jobs.head? with
    | some { flusher := .scheduler, .. } => true
    | some { flusher := .caller id, .. } => simulation.background = some id
    | _ => false

def report (simulation : Simulation) : Except Fault ReportSummary × Simulation :=
  let (result, service) := Reporting.pass.outcome.run simulation.service
  (result, simulation.withService service)

def turnReporter (simulation : Simulation) : Option Simulation :=
  match simulation.reporter with
  | .on ticker =>
    if ticker.next ≤ simulation.time then
      some { simulation.report.2 with reporter := .on (ticker.take simulation.time) }
    else none
  | _ => none

def schedulerRings (simulation : Simulation) : Bool :=
  simulation.schedulerListens && simulation.ticker.next ≤ simulation.time

/-- Whether the reporter's alarm rings now and was set before `moment`. -/
def reporterRingsFirst (simulation : Simulation) (moment : Nat) : Bool :=
  match simulation.reporter with
  | .on ticker => ticker.next ≤ simulation.time && ticker.setAt < moment
  | _ => false

def turnScheduler (simulation : Simulation) : Option Simulation :=
  let pipeline := simulation.pipeline
  if pipeline.closing = some .schedulerEnd && pipeline.scheduler = .stopped then
    some (simulation.perform .join)
  else if simulation.schedulerListens then
    if pipeline.service.tracker.closed then some (simulation.perform .stop)
    else if simulation.schedulerRings then
      some { simulation.perform .tick with ticker := simulation.ticker.take simulation.time }
    else if pipeline.scheduler = .waiting && pipeline.service.tracker.wakeup then
      some (simulation.perform .wake)
    else none
  else none

/-- The next thing that happens at this moment. -/
def turn (simulation : Simulation) : Option Simulation :=
  if simulation.canWork then
    if simulation.landsUnattended && simulation.reporterRingsFirst simulation.writeBegan then
      simulation.turnReporter
    else some simulation.work
  else if simulation.schedulerRings && simulation.reporterRingsFirst simulation.ticker.setAt then
    simulation.turnReporter.or simulation.turnScheduler
  else simulation.turnScheduler.or simulation.turnReporter

/-- More than the number of turns that can follow at one moment. -/
def turns (simulation : Simulation) : Nat :=
  16 + (simulation.pipeline.jobs.length + 4) * (simulation.service.tracker.unflushedKeys + 4)

def settleWithin : (fuel : Nat) → Simulation → Simulation
  | 0, simulation => simulation
  | fuel + 1, simulation =>
    match simulation.turn with
    | some next => settleWithin fuel next
    | none => simulation

def settle (simulation : Simulation) : Simulation := settleWithin simulation.turns simulation

def alarms (simulation : Simulation) : List Nat :=
  (if simulation.isWriting then [simulation.writeDue] else []) ++
    (if simulation.schedulerListens then [simulation.ticker.next] else []) ++
    match simulation.reporter with
    | .on ticker => [ticker.next]
    | _ => []

def nextAlarm (simulation : Simulation) : Option Nat := simulation.alarms.min?

def sleepWithin (isDone : Simulation → Bool) (deadline : Nat) : (fuel : Nat) → Simulation → Simulation
  | 0, simulation => simulation
  | fuel + 1, simulation =>
    let settled := simulation.settle
    if isDone settled then settled
    else match settled.nextAlarm.filter (· < deadline) with
      | some moment =>
        sleepWithin isDone deadline fuel { settled with time := max settled.time moment }
      | none => { settled with time := max settled.time deadline }

/-- Sleeps until virtual time is `deadline`, where nothing has happened at that moment yet, or until
`isDone`. -/
def sleepUnless (simulation : Simulation) (isDone : Simulation → Bool) (deadline : Nat) :
    Simulation :=
  sleepWithin isDone deadline (deadline - simulation.time + 2) simulation

def sleepUntil (simulation : Simulation) (deadline : Nat) : Simulation :=
  simulation.sleepUnless (fun _ => false) deadline

def awaitWithin (isDone : Simulation → Bool) : (fuel : Nat) → Simulation → Simulation
  | 0, simulation => simulation
  | fuel + 1, simulation =>
    let settled := simulation.settle
    if isDone settled then settled
    else match settled.nextAlarm with
      | some moment => awaitWithin isDone fuel { settled with time := max settled.time moment }
      | none => settled

/-- More than the time until every flush that is under way now, and two more, have ended. -/
def patience (simulation : Simulation) : Nat :=
  let longest := max simulation.writeDelay (simulation.writeDue - simulation.time)
  (simulation.pipeline.jobs.length + 3) * (longest + 1) + 2

def await (simulation : Simulation) (isDone : Simulation → Bool) : Simulation :=
  awaitWithin isDone simulation.patience simulation

end Simulation

end UsageBilling
