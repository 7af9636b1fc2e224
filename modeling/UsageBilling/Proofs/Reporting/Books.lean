import Mathlib.Algebra.Ring.Int.Defs
import Mathlib.Data.List.Basic
import UsageBilling.Proofs.Service.Programs
import UsageBilling.Proofs.Store.Contents
import UsageBilling.Reporting
import UsageBilling.Service.Run
/-!
Reporting passes against a provider that may answer anything, among other things that happen to the
service, and the books that the provider keeps. A pass carries out one action a turn and ends with its
last turn, wherever it stands then: that is a crash. Which group a request was made for is noted beside
the books; the provider does not know it.
-/
namespace UsageBilling

namespace Reporting

/-- What happens to a service between two actions of a pass. -/
inductive Change where
  /-- Usage is written, each row under the id given with it. -/
  | write (usages : List (Uuid × NewUsage))
  /-- A subscription is written over. -/
  | put (row : Subscription)
  | switch (method : Store.Method) (down : Bool)
  | clock (now : Instant)

structure Turn where
  changes : List Change := []
  answer : (call : Provider.Call) → Except Provider.Error call.Answer
  /-- A usage record is booked though its answer is an error. -/
  booked : Bool := false

def metered : (call : Provider.Call) → Except Provider.Error call.Answer
  | .getSubscription id => .ok
      { id, items := [{ id := "si_1", price := { lookupKey := some Metric.testRuns.name } }] }
  | .createUsageRecord _ => .ok { id := "mbur_1" }
  | _ => .error .notConfigured

def november : Period := ⟨⟨1698796800, 0⟩, ⟨1701388800, 0⟩⟩

/-- The service with its provider's books. -/
structure Books where
  service : Service
  /-- The groups that the running pass has read and not counted yet. -/
  waiting : List UsageGroup := []
  /-- The requests whose amounts were added, in order. -/
  ledger : List Provider.UsageReport := []
  /-- The groups that the requests in the ledger were made for. -/
  billed : List UsageGroup := []

end Reporting

namespace Service

def change (service : Service) : Reporting.Change → Service
  | .write usages => (service.onStore (·.insertUsage usages service.clock)).2
  | .put row => { service with store := service.store.put row }
  | .switch method down => { service with store := service.store.setOutage method down }
  | .clock now => { service with clock := now }

end Service

namespace Reporting

theorem change_usage (service : Service) (change : Change) :
    ∃ more, (service.change change).store.usage = service.store.usage ++ more := by
  cases change with
  | write usages =>
      simp only [Service.change, Service.onStore, Store.insertUsage]
      cases down : service.store.isDown .insertUsage with
      | true => exact ⟨[], by simp [Store.guarded_error down]⟩
      | false => exact ⟨_, by rw [Store.guarded_ok down]; rfl⟩
  | put row => exact ⟨[], (List.append_nil _).symm⟩
  | switch method down => exact ⟨[], (List.append_nil _).symm⟩
  | clock now => exact ⟨[], (List.append_nil _).symm⟩

/-- The groups that wait after an action. A pass reads all of them at once and counts each one when it
is done with it. -/
def stillWaiting (waiting : List UsageGroup) : (action : Action) → action.Reply → List UsageGroup
  | .unreportedUsage, .ok groups => groups
  | .unreportedUsage, .error _ => []
  | .count (.reports _), _ => waiting.tail
  | _, _ => waiting

def Repeats (ledger : List Provider.UsageReport) (report : Provider.UsageReport) : Prop :=
  report.idempotencyKey.isSome ∧ report.idempotencyKey ∈ ledger.map (·.idempotencyKey)

instance (ledger : List Provider.UsageReport) (report : Provider.UsageReport) :
    Decidable (Repeats ledger report) := inferInstanceAs (Decidable (_ ∧ _))

namespace Books

variable {α : Type}

def book (books : Books) (report : Provider.UsageReport) : Books :=
  { books with
    ledger := if Repeats books.ledger report then books.ledger else books.ledger ++ [report]
    billed :=
      if Repeats books.ledger report then books.billed else books.billed ++ books.waiting.take 1 }

def note (books : Books) (call : Provider.Call) : Books :=
  { books with service := { books.service with calls := books.service.calls ++ [call] } }

/-- The books after a call to the provider. What is answered has been booked. -/
def ask (books : Books) (turn : Turn) (call : Provider.Call) : Books :=
  match call with
  | .createUsageRecord report =>
    if (turn.answer (.createUsageRecord report)).isOk ∨ turn.booked then
      (books.note (.createUsageRecord report)).book report
    else books.note (.createUsageRecord report)
  | call => books.note call

def perform (books : Books) (turn : Turn) : (action : Action) → action.Reply × Books
  | .ask call => (turn.answer call, books.ask turn call)
  | action =>
    let (reply, service) := books.service.perform action
    (reply, { books with service, waiting := stillWaiting books.waiting action reply })

def meet (books : Books) (changes : List Change) : Books :=
  { books with service := changes.foldl Service.change books.service }

def follow (books : Books) : Program α → List Turn → Books
  | .step action next, turn :: turns =>
    let (reply, after) := (books.meet turn.changes).perform turn action
    after.follow (next reply) turns
  | _, _ => books

def run (books : Books) (passes : List (List Turn)) : Books :=
  passes.foldl (fun books turns => books.follow Reporting.pass.outcome turns) books

def total (books : Books) : Int := (books.ledger.map (·.quantity)).sum

end Books

def booksAfter (service : Service) (passes : List (List Turn)) : Books :=
  Books.run { service } passes

structure Bills (report : Provider.UsageReport) (group : UsageGroup) : Prop where
  key : report.idempotencyKey = some group.idempotencyKey
  quantity : report.quantity = group.quantity
  action : report.action = .increment

/-- What a pass may do while groups wait: bill the first one, mark its rows, and what touches no usage. -/
def Permitted (waiting : List UsageGroup) : Action → Prop
  | .markReported ids _ => ∃ group, waiting.head? = some group ∧ ids = group.rowIds
  | .ask (.createUsageRecord report) => ∃ group, waiting.head? = some group ∧ Bills report group
  | .track .. | .flush => False
  | _ => True

def Settles {α : Type} : Program α → List UsageGroup → Prop
  | .done _, _ => True
  | .step action next, waiting =>
    Permitted waiting action ∧ ∀ reply, Settles (next reply) (stillWaiting waiting action reply)

section Settles

variable {α β : Type} {waiting : List UsageGroup} {group : UsageGroup}

def Quiet (waiting : List UsageGroup) (action : Action) : Prop :=
  Permitted waiting action ∧ ∀ reply, stillWaiting waiting action reply = waiting

theorem settles_bind {program : Program α} {next : α → Program β}
    (quiet : program.Within (Quiet waiting)) (rest : ∀ result, Settles (next result) waiting) :
    Settles (program >>= next) waiting := by
  induction program with
  | done result => exact rest result
  | step action later ih =>
      obtain ⟨⟨permitted, stays⟩, inside⟩ := quiet
      refine ⟨permitted, fun reply => ?_⟩
      rw [stays reply]
      exact ih reply (inside reply)

theorem within_retire (group : UsageGroup) (waiting : List UsageGroup) :
    (retire group).outcome.Within (Quiet (group :: waiting)) := by
  apply Attempt.within_bind
  · exact Program.within_perform ⟨⟨group, rfl, rfl⟩, fun _ => rfl⟩
  · intro marked
    exact Attempt.within_pure _

theorem within_bill (group : UsageGroup) (item : Provider.Item) (waiting : List UsageGroup) :
    (bill group item).outcome.Within (Quiet (group :: waiting)) := by
  apply Attempt.within_lift
  · exact Program.within_perform ⟨trivial, fun _ => rfl⟩
  intro now
  apply Attempt.within_lift
  · exact Program.within_perform ⟨⟨group, rfl, rfl, rfl, rfl⟩, fun _ => rfl⟩
  rintro (error | record)
  · exact Attempt.within_throw _
  · apply Attempt.within_bind
    · exact Program.within_perform ⟨⟨group, rfl, rfl⟩, fun _ => rfl⟩
    · intro marked
      exact Attempt.within_pure _

theorem within_settle (group : UsageGroup) (remote : Provider.RemoteSubscription)
    (waiting : List UsageGroup) :
    (settle group remote).outcome.Within (Quiet (group :: waiting)) := by
  unfold settle
  split
  · exact within_bill group _ waiting
  · exact within_retire group waiting

theorem within_handle (group : UsageGroup) (fetched : Fetched) (waiting : List UsageGroup) :
    (handle group fetched).Within (Quiet (group :: waiting)) := by
  have settled : ∀ (attempt : Attempt GroupOutcome) (fetched : Fetched),
      attempt.outcome.Within (Quiet (group :: waiting)) →
      (do return (← attempt.outcome, fetched) : Program _).Within (Quiet (group :: waiting)) := by
    intro attempt fetched within
    exact Program.within_bind within fun _ => trivial
  apply Program.within_bind
  · exact Program.within_perform ⟨trivial, fun _ => rfl⟩
  rintro (fault | row)
  · trivial
  dsimp only
  split
  · apply Program.within_bind
    · exact Program.within_perform ⟨trivial, fun _ => rfl⟩
    intro now
    split
    · exact settled _ _ (within_retire group waiting)
    · trivial
  · split
    · exact settled _ _ (within_settle group _ waiting)
    · apply Program.within_bind
      · exact Program.within_perform ⟨trivial, fun _ => rfl⟩
      rintro (error | remote)
      · trivial
      · exact settled _ _ (within_settle group remote waiting)

theorem settles_handleAll (groups : List UsageGroup) (fetched : Fetched) (summary : ReportSummary) :
    Settles (handleAll groups fetched summary) groups := by
  induction groups generalizing fetched summary with
  | nil => trivial
  | cons group groups ih =>
      apply settles_bind (within_handle group fetched groups)
      rintro ⟨fault | outcome, fetched⟩
      · refine ⟨trivial, fun _ => ⟨trivial, fun _ => ?_⟩⟩
        exact ih fetched (summary.add .failed)
      · refine ⟨trivial, fun _ => ?_⟩
        exact ih fetched (summary.add outcome)

theorem settles_map {program : Program α} (result : α → β) (settles : Settles program waiting) :
    Settles (result <$> program) waiting := by
  induction program generalizing waiting with
  | done value => trivial
  | step action next ih => exact ⟨settles.1, fun reply => ih reply (settles.2 reply)⟩

theorem settles_pass (waiting : List UsageGroup) : Settles pass.outcome waiting := by
  refine ⟨trivial, ?_⟩
  rintro (fault | groups)
  · trivial
  · exact settles_map Except.ok (settles_handleAll groups [] {})

end Settles

end Reporting

end UsageBilling
