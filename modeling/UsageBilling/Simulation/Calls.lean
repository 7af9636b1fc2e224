import UsageBilling.Simulation.Basic
/-!
What can be done with a simulated service from outside. After each call everything happens that can
happen before time moves on.
-/
namespace UsageBilling.Simulation

def flushNow (simulation : Simulation) : Except Fault FlushReport × Simulation :=
  let id := simulation.callers
  let begun := { simulation with callers := id + 1 }.perform (.flush id)
  let ended := begun.await fun later => (later.results.lookup id).isSome
  ((ended.results.lookup id).getD (.ok {}),
    { ended with results := ended.results.filter fun entry => entry.1 ≠ id })

/-- Carries out one action of a program. A flush takes as long as it takes. -/
def carryOut (simulation : Simulation) : (action : Action) → action.Reply × Simulation
  | .flush => simulation.flushNow
  | action =>
    let (reply, service) := simulation.service.perform action
    (reply, simulation.withService service)

def runProgram {α : Type} : Program α → Simulation → α × Simulation
  | .done result, simulation => (result, simulation)
  | .step action next, simulation =>
    let (reply, after) := simulation.carryOut action
    runProgram (next reply) after

def act {α : Type} (simulation : Simulation) (program : Program α) : α × Simulation :=
  let (result, after) := runProgram program simulation
  (result, after.settle)

def change (simulation : Simulation) (update : Service → Service) : Simulation :=
  (simulation.withService (update simulation.service)).settle

/-- Moves the clock on the wall, and then sleeps for the same time. -/
def advance (simulation : Simulation) (millis : Nat) : Simulation :=
  let service := simulation.service
  let later := simulation.withService { service with clock := service.clock.addMillis millis }
  (later.sleepUntil (simulation.time + millis)).settle

def startFlush (simulation : Simulation) : Simulation :=
  let id := simulation.callers
  ({ simulation with callers := id + 1, background := some id }.perform (.flush id)).settle

def joinFlush (simulation : Simulation) : Option (Except Fault FlushReport) × Simulation :=
  match simulation.background with
  | none => (none, simulation)
  | some id =>
    let ended := simulation.await fun later => (later.results.lookup id).isSome
    (ended.results.lookup id, { ended with background := none }.settle)

def abortFlush (simulation : Simulation) : Simulation :=
  match simulation.background with
  | none => simulation
  | some id => ({ simulation with background := none }.perform (.abandon id)).settle

def takeCloseResult (simulation : Simulation) :
    Except Tracker.Error FlushReport × Simulation :=
  (simulation.closeResult.getD (.error .closed), { simulation with closeResult := none }.settle)

def close (simulation : Simulation) : Except Tracker.Error FlushReport × Simulation :=
  ((simulation.perform .close).await fun later => later.closeResult.isSome).takeCloseResult

/-- How far a closing comes without waiting for anybody. -/
def hasten : (fuel : Nat) → Simulation → Simulation
  | 0, simulation => simulation
  | fuel + 1, simulation =>
    let joined := simulation.perform .join
    if joined.canWork && joined.pipeline.jobs.head?.any (fun job => job.flusher = .closing) then
      hasten fuel joined.work
    else joined

def expire (simulation : Simulation) (limitMillis : Nat) : Simulation :=
  if simulation.closeResult.isSome then simulation
  else simulation.perform (.expire (limitMillis / 1000))

/-- Closes the tracker, and gives up after a time. Without any time only what needs no waiting is
done. -/
def closeWithin (simulation : Simulation) (limitMillis : Nat) :
    Except Tracker.Error FlushReport × Simulation :=
  let begun := simulation.perform .close
  let hastened := begun.hasten begun.turns
  let waited :=
    if limitMillis = 0 then hastened
    else
      let slept := hastened.sleepUnless (·.closeResult.isSome) (simulation.time + limitMillis)
      slept.hasten slept.turns
  (waited.expire limitMillis).takeCloseResult

def startReporter (simulation : Simulation) (millis : Nat) : Simulation :=
  { simulation with
    reporter :=
      if millis = 0 then .crashed else .on ⟨millis, simulation.time + millis, simulation.time⟩ }.settle

def stopReporter (simulation : Simulation) : Bool × Simulation :=
  (simulation.reporter ≠ .crashed, { simulation with reporter := .off }.settle)

/-- The end of a service: the tracker is closed within a time, and then the reporter is stopped. -/
def shutDown (simulation : Simulation) (limitMillis : Nat) :
    Except Tracker.Error FlushReport × Bool × Simulation :=
  let (flushed, closed) := simulation.closeWithin limitMillis
  let (orderly, stopped) := closed.stopReporter
  (flushed, orderly, stopped)

/-- Writes rows, as slowly as a flush does. -/
def insertUsage (simulation : Simulation) (usages : List NewUsage) :
    Except Fault Nat × Simulation :=
  let slept :=
    if simulation.writeDelay = 0 then simulation
    else simulation.sleepUntil (simulation.time + simulation.writeDelay)
  let service := slept.service
  let (fresh, ids) := service.ids.drawMany usages.length
  let (result, store) := service.store.insertUsage (fresh.zip usages) service.clock
  (result, (slept.withService { service with store, ids }).settle)

def respond (simulation : Simulation) (request : Http.Request) : Http.Response × Simulation :=
  simulation.act (Http.respond simulation.site request)

end UsageBilling.Simulation
