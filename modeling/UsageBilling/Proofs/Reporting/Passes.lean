import Mathlib.Data.List.Forall2
import UsageBilling.Proofs.Reporting.Accounts
import UsageBilling.Proofs.Reporting.Outstanding
import UsageBilling.Proofs.Service.Frame
/-!
Whole passes. The provider may answer differently each time, and after each action other things happen
to the service.
-/
namespace UsageBilling

/-- What came of a program: its result, the service after it, the actions it took, and the rows of usage
that others wrote meanwhile. -/
structure Conducted (α : Type) where
  result : α
  service : Service
  trace : List Performed := []
  written : List UsageRow := []

/-- Runs a program, where the provider answers the action of number `n` as `answers n` does and what
follows it are `changes n`. -/
def Program.conduct {α : Type} (answers : Nat → Provider.Answers)
    (changes : Nat → List Reporting.Change) : Program α → Service → Conducted α
  | .done result, service => { result, service }
  | .step action next, service =>
    let (reply, acted) := service.act (answers 0) action
    let met := (changes 0).foldl Service.change acted
    let rest := (next reply).conduct (fun n => answers (n + 1)) (fun n => changes (n + 1)) met
    { rest with
      trace := ⟨action, reply⟩ :: rest.trace
      written := met.store.usage.drop acted.store.usage.length ++ rest.written }

theorem Program.Obeys.conduct {α : Type} {program : Program α} {trace : List Performed}
    {holds : α → List Performed → Prop} (obeys : program.Obeys traceRules trace holds)
    (answers : Nat → Provider.Answers) (changes : Nat → List Reporting.Change) (service : Service) :
    holds (program.conduct answers changes service).result
      (trace ++ (program.conduct answers changes service).trace) := by
  induction program generalizing trace answers changes service with
  | done result => exact (List.append_nil trace).symm ▸ obeys
  | step action next ih =>
      have rest := ih _ (obeys.2 (service.act (answers 0) action).1) (fun n => answers (n + 1))
        (fun n => changes (n + 1)) ((changes 0).foldl Service.change (service.act (answers 0) action).2)
      simpa [traceRules, Program.conduct] using rest

def Performed.marks? (id : Uuid) : Performed → Option (Option String)
  | ⟨.markReported ids usageId, .ok _⟩ => if id ∈ ids then some usageId else none
  | _ => none

def Performed.Quiet (ids : List Uuid) (performed : Performed) : Prop :=
  (∀ key quantity, performed.action ≠ .track key quantity) ∧ performed.action ≠ .flush ∧
    ∀ id, (performed.marks? id).isSome → id ∈ ids

namespace Reporting

/-- How a row ends: it stays as it is if it had been reported or if no action marks it, and else the
first action that marks it decides. -/
def Leaves (trace : List Performed) (row after : UsageRow) : Prop :=
  if row.reported then after = row
  else match trace.findSome? (·.marks? row.id) with
    | none => after = row
    | some usageId => ∃ now, after = row.markReported usageId now

def marked (performed : Performed) (now : Instant) (row : UsageRow) : UsageRow :=
  if row.reported then row
  else match performed.marks? row.id with
    | none => row
    | some usageId => row.markReported usageId now

section

variable {α : Type} {answers : Nat → Provider.Answers} {changes : Nat → List Change}

end

end Reporting

end UsageBilling
