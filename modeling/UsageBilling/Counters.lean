import UsageBilling.Activity
import UsageBilling.Tracker.Basic
/-!
Counters of the service's activity. A count is a word of 64 bits; on exposition it becomes a number
of double precision.
-/
namespace UsageBilling

inductive Counter where
  | usageTracked (metric : Metric)
  | flushes (trigger : Trigger) (succeeded : Bool)
  | recordsFlushed (metric : Metric)
  | reports (outcome : GroupOutcome)
  | webhookEvents (type outcome : String)
  | operations (operation : Operation)
  | limitExceeded (metric : Metric)
  | errors (kind operation : String)
  | providerRequests (operation status : String)
  deriving DecidableEq, Repr

namespace Counter

def family : Counter → String
  | usageTracked _ => "metering_usage_tracked_total"
  | flushes .. => "metering_usage_flushes_total"
  | recordsFlushed _ => "metering_usage_records_flushed_total"
  | reports _ => "metering_usage_reports_total"
  | webhookEvents .. => "metering_webhook_events_total"
  | operations _ => "metering_subscription_operations_total"
  | limitExceeded _ => "metering_limit_exceeded_total"
  | errors .. => "metering_errors_total"
  | providerRequests .. => "metering_provider_request_duration_seconds_count"

def labels : Counter → List (String × String)
  | usageTracked metric | recordsFlushed metric | limitExceeded metric => [("metric", metric.name)]
  | flushes trigger succeeded =>
    [("outcome", if succeeded then "success" else "failure"), ("trigger", trigger.name)]
  | reports outcome => [("outcome", outcome.name)]
  | webhookEvents type outcome => [("event_type", type), ("outcome", outcome)]
  | operations operation => [("operation", operation.name)]
  | errors kind operation => [("error_type", kind), ("operation", operation)]
  | providerRequests operation status => [("operation", operation), ("status", status)]

def escapeChar (c : Char) : List Char :=
  if c = '\\' then ['\\', '\\']
  else if c = '"' then ['\\', '"']
  else if c = '\n' then ['\\', 'n']
  else [c]

def labelText (label : String × String) : String :=
  label.1 ++ "=\"" ++ String.ofList (label.2.toList.flatMap escapeChar) ++ "\""

def series (counter : Counter) : String :=
  counter.family ++ "\x7b" ++ ",".intercalate (counter.labels.map labelText) ++ "\x7d"

end Counter

structure Counters where
  counts : List (Counter × Nat) := []
  /-- How many keys the live buffer held when that was last noted. -/
  bufferedKeys : Nat := 0
  deriving DecidableEq, Repr, Inhabited

namespace Counters

def value (counters : Counters) (counter : Counter) : Nat := (counters.counts.lookup counter).getD 0

def addTo (counter : Counter) (amount : Nat) : List (Counter × Nat) → List (Counter × Nat)
  | [] => [(counter, amount % Nat.pow 2 64)]
  | (other, present) :: counts =>
    if other = counter then (counter, (present + amount) % Nat.pow 2 64) :: counts
    else (other, present) :: addTo counter amount counts

def add (counters : Counters) (counter : Counter) (amount : Nat) : Counters :=
  { counters with counts := addTo counter amount counters.counts }

def increment (counters : Counters) (counter : Counter) : Counters := counters.add counter 1

/-- The number of double precision nearest to a word; of two the one with an even significand. -/
def exposed (word : Nat) : Nat :=
  let unit := Nat.pow 2 (Nat.log2 word - 52)
  let below := word / unit
  let rest := 2 * (word % unit)
  unit * (if rest < unit ∨ rest = unit ∧ below % 2 = 0 then below else below + 1)

def exposition (counters : Counters) : List (String × Nat) :=
  let series := counters.counts.map fun (counter, count) => (counter.series, exposed count)
  let gauge := ("metering_usage_buffered_keys", counters.bufferedKeys)
  (series ++ [gauge]).filter fun entry => entry.2 ≠ 0

def text (counters : Counters) : String :=
  String.join (counters.exposition.map fun (series, value) => series ++ " " ++ toString value ++ "\n")

end Counters

end UsageBilling
