import UsageBilling.Digest.Sha256
import UsageBilling.Program
/-!
Reporting of usage to the billing provider. In a pass every group of unreported rows is billed once,
under a key that stands for its rows, and then the rows are marked. A group that can never be billed
is retired: its rows are marked without a record of the provider.
-/
namespace UsageBilling

namespace UsageGroup

/-- What the key of a group is made from: the ids of its rows in ascending order. -/
def keyOctets (group : UsageGroup) : List UInt8 :=
  (group.rowIds.mergeSort (· ≤ ·)).flatMap Uuid.octets

/-- The provider books requests with this key once. -/
def idempotencyKey (group : UsageGroup) : String :=
  "usage-" ++ String.ofList (Text.hex (Digest.sha256 group.keyOctets))

end UsageGroup

structure ReportSummary where
  reported : Nat := 0
  skipped : Nat := 0
  retired : Nat := 0
  failed : Nat := 0
  deriving DecidableEq, Repr, Inhabited

namespace ReportSummary

def add (summary : ReportSummary) : GroupOutcome → ReportSummary
  | .reported => { summary with reported := summary.reported + 1 }
  | .skipped => { summary with skipped := summary.skipped + 1 }
  | .retired => { summary with retired := summary.retired + 1 }
  | .failed => { summary with failed := summary.failed + 1 }

end ReportSummary

namespace Reporting

abbrev Fetched := List (String × Provider.RemoteSubscription)

def bill (group : UsageGroup) (item : Provider.Item) : Attempt GroupOutcome := do
  let now ← perform .now
  match ← perform (.ask (.createUsageRecord {
      itemId := item.id
      quantity := group.quantity
      timestamp := now.seconds
      action := .increment
      idempotencyKey := some group.idempotencyKey })) with
  | .error error => throw error.toFault
  | .ok record =>
    let _ ← orFail (perform (.markReported group.rowIds (some record.id)))
    return .reported

def retire (group : UsageGroup) : Attempt GroupOutcome := do
  let _ ← orFail (perform (.markReported group.rowIds none))
  return .retired

def settle (group : UsageGroup) (remote : Provider.RemoteSubscription) : Attempt GroupOutcome :=
  match remote.itemFor? group.metric with
  | some item => bill group item
  | none => retire group

def handle (group : UsageGroup) (fetched : Fetched) :
    Program (Except Fault GroupOutcome × Fetched) := do
  match ← perform (.findByTenant group.tenant) with
  | .error fault => return (.error fault, fetched)
  | .ok row =>
    match row.bind (·.providerId) with
    | none =>
      let now ← perform .now
      if group.period.finish ≤ now then return (← (retire group).outcome, fetched)
      else return (.ok .skipped, fetched)
    | some providerId =>
      match fetched.lookup providerId with
      | some remote => return (← (settle group remote).outcome, fetched)
      | none =>
        match ← perform (.ask (.getSubscription providerId)) with
        | .error error => return (.error error.toFault, fetched)
        | .ok remote => return (← (settle group remote).outcome, (providerId, remote) :: fetched)

/-- Handles the groups in order. One that fails does not stop the others. -/
def handleAll : List UsageGroup → Fetched → ReportSummary → Program ReportSummary
  | [], _, summary => return summary
  | group :: groups, fetched, summary => do
    let (result, fetched) ← handle group fetched
    match result with
    | .ok outcome =>
      perform (.count (.reports outcome))
      handleAll groups fetched (summary.add outcome)
    | .error _ =>
      perform (.count (.reports .failed))
      perform (.count (.errors "usage_report" group.metric))
      handleAll groups fetched (summary.add .failed)

def pass : Attempt ReportSummary := do
  let groups ← orFail (perform .unreportedUsage)
  handleAll groups [] {}

end Reporting

end UsageBilling
