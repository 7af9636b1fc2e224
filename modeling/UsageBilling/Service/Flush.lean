import UsageBilling.Service.Basic
/-!
Flushes. A flush takes a snapshot of the live buffer, stamps each amount with the billing period of
its tenant, and writes all of them as one batch of rows. If the write fails, the amounts go back into
the live buffer.
-/
namespace UsageBilling

/-- How far a flush has come. -/
inductive Flush where
  /-- It has not taken its snapshot. -/
  | queued
  /-- The amounts in `rest` have no period yet. -/
  | stamping (now : Instant) (records : List NewUsage) (rest : Buffer)
  /-- Only the write is left. -/
  | writing (records : List NewUsage)
  deriving DecidableEq, Repr

inductive FlushStep where
  | running (flush : Flush)
  | finished (result : Except Fault FlushReport)

namespace Service

/-- The billing period of a tenant. Where the row cannot be read it is the calendar month. -/
def periodAt (service : Service) (tenant : Uuid) (moment : Instant) : Period :=
  match service.store.findByTenant tenant with
  | .ok row => .ofSubscription row moment
  | .error _ => .calendarMonth moment

/-- The row to be written for an amount. All rows of a tenant get the same period. -/
def stamp (service : Service) (now : Instant) (records : List NewUsage) (entry : UsageKey × Int) :
    NewUsage :=
  let known := records.find? fun record => record.tenant = entry.1.tenant
  { tenant := entry.1.tenant
    metric := entry.1.metric
    quantity := entry.2
    period := (known.map (·.period)).getD (service.periodAt entry.1.tenant now) }

def beginFlush (service : Service) : Service :=
  { service with tracker := service.tracker.snapshot }.gauge

def reportOf (records : List NewUsage) : FlushReport :=
  ⟨records.length, Quantity.sum (records.map (·.quantity))⟩

/-- Writes the rows, or puts the amounts back. -/
def endFlush (service : Service) (trigger : Trigger) (records : List NewUsage) :
    Except Fault FlushReport × Service :=
  let (fresh, ids) := service.ids.drawMany records.length
  match service.store.insertUsage (fresh.zip records) service.clock with
  | (.ok _, store) =>
    let landed := { service with store, ids, tracker := service.tracker.land }
    let counted := records.foldl (fun s record => s.count (.recordsFlushed record.metric)) landed
    (.ok (reportOf records), counted.count (.flushes trigger true))
  | (.error fault, _) =>
    let restored := { service with tracker := service.tracker.requeue }.gauge
    (.error fault, restored.count (.flushes trigger false))

def stepFlush (service : Service) (trigger : Trigger) : Flush → FlushStep × Service
  | .queued =>
    let begun := service.beginFlush
    if begun.tracker.inflight.isEmpty then (.finished (.ok {}), begun)
    else (.running (.stamping begun.clock [] begun.tracker.inflight), begun)
  | .stamping now records (entry :: rest) =>
    (.running (.stamping now (records ++ [service.stamp now records entry]) rest), service)
  | .stamping _ records [] => (.running (.writing records), service)
  | .writing records =>
    let (result, ended) := service.endFlush trigger records
    (.finished result, ended)

def stampAll (service : Service) (now : Instant) (records : List NewUsage) :
    Buffer → List NewUsage
  | [] => records
  | entry :: rest => service.stampAll now (records ++ [service.stamp now records entry]) rest

/-- A whole flush, with nothing in between. -/
def flush (service : Service) (trigger : Trigger) : Except Fault FlushReport × Service :=
  let begun := service.beginFlush
  if begun.tracker.inflight.isEmpty then (.ok {}, begun)
  else begun.endFlush trigger (begun.stampAll begun.clock [] begun.tracker.inflight)

end Service

end UsageBilling
