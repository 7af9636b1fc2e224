import UsageBilling.Fault
import UsageBilling.Metric
import UsageBilling.Quantity
/-!
The usage tracker: amounts that have been accepted and are not stored yet. New amounts go into the
live buffer. A flush moves that buffer into the slot of the flush, and its amounts stay pending there
until they are stored.
-/
namespace UsageBilling

/-- Amounts by key. No key stands twice. -/
abbrev Buffer := List (UsageKey × Int)

namespace Buffer

def get (buffer : Buffer) (key : UsageKey) : Int := (buffer.lookup key).getD 0

def has (buffer : Buffer) (key : UsageKey) : Bool := (buffer.lookup key).isSome

def add (key : UsageKey) (amount : Int) : Buffer → Buffer
  | [] => [(key, Quantity.add 0 amount)]
  | (other, present) :: entries =>
    if other = key then (key, Quantity.add present amount) :: entries
    else (other, present) :: add key amount entries

def merge (buffer other : Buffer) : Buffer :=
  other.foldl (fun merged entry => add entry.1 entry.2 merged) buffer

def amounts (buffer : Buffer) : List Int := buffer.map Prod.snd

end Buffer

inductive Trigger where
  | manual
  | interval
  | threshold
  | retry
  | shutdown
  deriving DecidableEq, Repr

def Trigger.name : Trigger → String
  | manual => "manual"
  | interval => "interval"
  | threshold => "threshold"
  | retry => "retry"
  | shutdown => "shutdown"

structure FlushReport where
  records : Nat := 0
  quantity : Int := 0
  deriving DecidableEq, Repr, Inhabited

structure Tracker where
  /-- With more keys than this in the live buffer a flush is asked for. -/
  threshold : Nat := 100
  live : Buffer := []
  /-- The slot of the flush that is under way, or of one that was abandoned. -/
  inflight : Buffer := []
  closed : Bool := false
  /-- Whether a flush has been asked for and the scheduler has not taken notice. -/
  wakeup : Bool := false
  deriving DecidableEq, Repr, Inhabited

namespace Tracker

inductive Error where
  | closed
  | store (fault : Fault)
  | finalFlush (entries : Nat) (fault : Fault)
  | timedOut (timeoutSecs entries : Nat) (quantity : Int)
  deriving DecidableEq, Repr

namespace Error

def message : Error → String
  | closed => "usage tracker is closed"
  | store fault => "usage flush failed: " ++ fault.message
  | finalFlush entries fault =>
    "final flush failed with " ++ toString entries ++ " entries still buffered: " ++ fault.message
  | timedOut timeoutSecs entries quantity =>
    "final flush timed out after " ++ toString timeoutSecs ++ "s with " ++ toString entries ++
      " entries (" ++ toString quantity ++ " units) unflushed"

def toFault : Error → Fault
  | closed => .unavailable
  | store fault => fault
  | error => .internal ⟨error.message, []⟩

end Error

/-- Adds an amount to the live buffer, and asks for a flush if that holds too many keys now. -/
def book (tracker : Tracker) (key : UsageKey) (amount : Int) : Tracker :=
  let live := Buffer.add key amount tracker.live
  { tracker with live, wakeup := tracker.wakeup || tracker.threshold < live.length }

def pending (tracker : Tracker) (key : UsageKey) : Int :=
  Quantity.add (tracker.live.get key) (tracker.inflight.get key)

def pendingOf (tracker : Tracker) (tenant : Uuid) : List (Metric × Int) :=
  Metric.all.filterMap fun metric =>
    let key : UsageKey := ⟨tenant, metric⟩
    if tracker.live.has key || tracker.inflight.has key then some (metric, tracker.pending key)
    else none

def unflushedKeys (tracker : Tracker) : Nat :=
  tracker.live.length + (tracker.inflight.filter fun entry => !tracker.live.has entry.1).length

def unflushedQuantity (tracker : Tracker) : Int :=
  Quantity.sum (tracker.live.amounts ++ tracker.inflight.amounts)

/-- Puts the amounts in the slot back into the live buffer. -/
def requeue (tracker : Tracker) : Tracker :=
  { tracker with live := tracker.live.merge tracker.inflight, inflight := [] }

/-- Moves the live buffer into the slot, with what an abandoned flush left there. -/
def snapshot (tracker : Tracker) : Tracker :=
  let gathered := tracker.requeue
  { gathered with live := [], inflight := gathered.live }

def land (tracker : Tracker) : Tracker := { tracker with inflight := [] }

end Tracker

end UsageBilling
