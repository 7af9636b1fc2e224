import UsageBilling.Counters
import UsageBilling.Provider.Backend
import UsageBilling.Store.Subscriptions
import UsageBilling.Store.Usage
/-!
A running service: its clock, its store, the usage tracker, the counters, and the billing provider
with the calls made to it.
-/
namespace UsageBilling

structure Service where
  clock : Instant
  ids : IdSource := {}
  store : Store := {}
  tracker : Tracker := {}
  counters : Counters := {}
  backend : Provider.Backend := .prepared []
  /-- The calls made to the provider, in order. -/
  calls : List Provider.Call := []
  deriving DecidableEq, Inhabited

namespace Service

def count (service : Service) (counter : Counter) : Service :=
  { service with counters := service.counters.increment counter }

def gauge (service : Service) : Service :=
  { service with
    counters := { service.counters with bufferedKeys := service.tracker.live.length } }

/-- Accepts an amount of usage, unless the tracker is closed. Nothing is booked for an amount of
zero. -/
def track (service : Service) (key : UsageKey) (quantity : Nat) :
    Except Tracker.Error Unit × Service :=
  if service.tracker.closed then (.error .closed, service)
  else if quantity = 0 then (.ok (), service)
  else
    let amount := Quantity.ofCount quantity
    let booked := { service with
      tracker := service.tracker.book key amount
      counters := service.counters.add (.usageTracked key.metric) amount.toNat }
    (.ok (), booked.gauge)

def ask (service : Service) (call : Provider.Call) :
    Except Provider.Error call.Answer × Service :=
  let (answer, status, backend) := service.backend.answer call
  let asked := { service with backend, calls := service.calls ++ [call] }
  (answer, match status with
    | some status => asked.count (.providerRequests call.name status)
    | none => asked)

def onStore {α : Type} (service : Service) (run : Store → α × Store) : α × Service :=
  let (answer, store) := run service.store
  (answer, { service with store })

end Service

end UsageBilling
