import Mathlib.Algebra.Ring.Nat
import Mathlib.Logic.Function.Basic
import UsageBilling.Limits
import UsageBilling.Proofs.Tracker.Conservation
/-!
Many calls at once on one service. Each call runs a program of its own, one action at a time, and
waits where it has asked for a flush. In between the tasks of the tracker go on, calls are dropped, and
things change from outside. Main result: in every state that can be reached this way, what is stored,
live and in the slot of a flush adds up to what the calls were told has been accepted.
-/
namespace UsageBilling

inductive Call (β : Type) where
  | ready (program : Program β)
  /-- It goes on when its flush has ended. -/
  | awaiting (next : Except Fault FlushReport → Program β)

/-- A service and the calls to it, by number. -/
structure Traffic (β : Type) where
  pipeline : Pipeline
  calls : Nat → Option (Call β) := fun _ => none
  /-- How many calls have begun. -/
  begun : Nat := 0
  /-- The actions that were carried out, and their replies. -/
  log : List Performed := []
  /-- What calls have returned. -/
  returned : List (Nat × β) := []

def Performed.accepted (key : UsageKey) : Performed → Nat
  | ⟨.track tracked quantity, reply⟩ => if tracked = key ∧ reply.isOk then quantity else 0
  | _ => 0

def Pipeline.performed (pipeline : Pipeline) : Move → List Performed
  | .event (.track key quantity) | .act (.track key quantity) =>
    [⟨.track key quantity, (pipeline.service.track key quantity).1⟩]
  | .act .flush => []
  | .act action => [⟨action, (pipeline.service.perform action).1⟩]
  | _ => []

namespace Traffic

variable {β : Type}

inductive Step (β : Type) where
  | begin (program : Program β)
  /-- A call carries out its next action, or returns. -/
  | proceed (call : Nat)
  /-- The future of a call is dropped, and its flush with it. -/
  | cancel (call : Nat)
  | around (move : Move)

/-- Lets a call go on whose flush has ended. -/
def notify (calls : Nat → Option (Call β)) : Option Notice → Nat → Option (Call β)
  | some (.flushed id result) =>
    match calls id with
    | some (.awaiting next) => Function.update calls id (some (.ready (next result)))
    | _ => calls
  | _ => calls

def notice (pipeline : Pipeline) : Move → Option Notice
  | .event event => (pipeline.perform event).1
  | _ => none

def make (traffic : Traffic β) (move : Move) : Traffic β :=
  { traffic with
    pipeline := traffic.pipeline.after move
    calls := notify traffic.calls (notice traffic.pipeline move)
    log := traffic.log ++ traffic.pipeline.performed move }

def set (traffic : Traffic β) (call : Nat) (state : Option (Call β)) : Traffic β :=
  { traffic with calls := Function.update traffic.calls call state }

def step (traffic : Traffic β) : Step β → Traffic β
  | .begin program =>
    { traffic.set traffic.begun (some (.ready program)) with begun := traffic.begun + 1 }
  | .proceed call =>
    match traffic.calls call with
    | some (.ready (.done result)) =>
      { traffic.set call none with returned := traffic.returned ++ [(call, result)] }
    | some (.ready (.step .flush next)) =>
      (traffic.set call (some (.awaiting next))).make (.event (.flush call))
    | some (.ready (.step action next)) =>
      (traffic.set call (some (.ready (next (traffic.pipeline.service.perform action).1)))).make
        (.act action)
    | _ => traffic
  | .cancel call => (traffic.set call none).make (.event (.abandon call))
  | .around move => traffic.make move

def run (traffic : Traffic β) (steps : List (Step β)) : Traffic β := steps.foldl step traffic

/-- How many units of `key` the calls were told have been accepted. -/
def accepted (traffic : Traffic β) (key : UsageKey) : Nat :=
  (traffic.log.map (Performed.accepted key)).sum

theorem accepted_performed (pipeline : Pipeline) (key : UsageKey) (move : Move) :
    ((pipeline.performed move).map (Performed.accepted key)).sum = pipeline.accepts key move := by
  cases move with
  | event event => cases event <;> simp [Pipeline.performed, Pipeline.accepts, Performed.accepted]
  | act action => cases action <;> simp [Pipeline.performed, Pipeline.accepts, Performed.accepted]
  | _ => rfl

theorem accepted_make (traffic : Traffic β) (move : Move) (key : UsageKey) :
    (traffic.make move).accepted key =
      traffic.accepted key + traffic.pipeline.accepted key [move] := by
  simp [make, accepted, Pipeline.accepted, accepted_performed]

theorem calls_set_cases {traffic : Traffic β} {call other : Nat} {state : Option (Call β)}
    {present : Call β} (found : (traffic.set call state).calls other = some present) :
    other = call ∧ state = some present ∨ other ≠ call ∧ traffic.calls other = some present := by
  by_cases same : other = call
  · subst same
    exact .inl ⟨rfl, (Function.update_self other _ traffic.calls).symm.trans found⟩
  · exact .inr ⟨same, (Function.update_of_ne same _ traffic.calls).symm.trans found⟩

theorem notify_cases (calls : Nat → Option (Call β)) (notice : Option Notice) (call : Nat) :
    notify calls notice call = calls call ∨
    ∃ next result, calls call = some (.awaiting next) ∧
      notify calls notice call = some (.ready (next result)) := by
  rcases notice with _ | ⟨tracked | ⟨id, result⟩ | closed⟩
  · exact .inl rfl
  · exact .inl rfl
  · simp only [notify]
    cases waiting : calls id with
    | none => exact .inl rfl
    | some state =>
        cases state with
        | ready program => exact .inl rfl
        | awaiting next =>
            by_cases same : call = id
            · subst same
              exact .inr ⟨next, result, waiting, Function.update_self call _ calls⟩
            · exact .inl (Function.update_of_ne same _ calls)
  · exact .inl rfl

theorem step_moves (traffic : Traffic β) (step : Step β) :
    ∃ moves, (traffic.step step).pipeline = traffic.pipeline.afterAll moves ∧
      ∀ key, (traffic.step step).accepted key =
        traffic.accepted key + traffic.pipeline.accepted key moves := by
  cases step with
  | begin program => exact ⟨[], rfl, fun key => rfl⟩
  | proceed call =>
      unfold Traffic.step
      dsimp only
      split
      · exact ⟨[], rfl, fun key => rfl⟩
      · exact ⟨[.event (.flush call)], rfl, fun key => accepted_make _ _ key⟩
      · rename_i action next _ _
        exact ⟨[.act action], rfl, fun key => accepted_make _ _ key⟩
      · exact ⟨[], rfl, fun key => rfl⟩
  | cancel call => exact ⟨[.event (.abandon call)], rfl, fun key => accepted_make _ _ key⟩
  | around move => exact ⟨[move], rfl, fun key => accepted_make _ _ key⟩

theorem run_moves (traffic : Traffic β) (steps : List (Step β)) :
    ∃ moves, (traffic.run steps).pipeline = traffic.pipeline.afterAll moves ∧
      ∀ key, (traffic.run steps).accepted key =
        traffic.accepted key + traffic.pipeline.accepted key moves := by
  induction steps generalizing traffic with
  | nil => exact ⟨[], rfl, fun key => rfl⟩
  | cons step steps ih =>
      obtain ⟨first, stepped, firstSum⟩ := traffic.step_moves step
      obtain ⟨rest, ended, restSum⟩ := ih (traffic.step step)
      refine ⟨first ++ rest, ?_, fun key => ?_⟩
      · rw [Pipeline.afterAll_append, ← stepped]
        exact ended
      · change ((traffic.step step).run steps).accepted key = _
        rw [restSum, firstSum, stepped, Pipeline.accepted_append, Nat.add_assoc]

/-- Conservation of usage. However calls, flushes that succeed, fail or are dropped, closing and the
scheduler interleave: every unit of a key that was accepted is stored, live or in the slot, and it is
so once, as long as the accepted units fit into an amount. -/
theorem stored_add_pending_eq_accepted (start : Traffic β) (fresh : start.pipeline.Fresh)
    (silent : start.log = []) (steps : List (Step β)) (key : UsageKey)
    (fits : ((start.run steps).accepted key : Int) ≤ Quantity.greatest) :
    (start.run steps).pipeline.service.store.stored key +
        (start.run steps).pipeline.service.tracker.live.get key +
        (start.run steps).pipeline.service.tracker.inflight.get key =
      (start.run steps).accepted key := by
  obtain ⟨moves, ended, accepted⟩ := start.run_moves steps
  have total : (start.run steps).accepted key = start.pipeline.accepted key moves := by
    rw [accepted]
    simp [Traffic.accepted, silent]
  have carried := (fresh.afterAll moves).2 key
  rw [← ended, ← total] at carried
  exact carried.exact fits

def droppedFlush (key : UsageKey) : List (Step (Except Fault UsageTotals)) :=
  [.around (.event (.track key 5)), .begin (UsageTotals.current key.tenant).outcome, .proceed 0,
    .around (.event .work), .around (.event (.track key 3)), .around (.event .work),
    .around (.event .work), .cancel 0, .around (.event .close), .around (.event .stop),
    .around (.event .join), .around (.event .work), .around (.event .work),
    .around (.event .work), .around (.event .work)]

def started (clock : Instant) : Traffic β := { pipeline := { service := { clock } } }

theorem started_fresh (clock : Instant) : (started (β := β) clock).pipeline.Fresh :=
  ⟨rfl, rfl, rfl, rfl⟩

theorem stored_add_pending_eq_accepted_droppedFlush :
    ∃ (start : Traffic (Except Fault UsageTotals)) (key : UsageKey),
      start.pipeline.Fresh ∧ start.log = [] ∧
      ((start.run (droppedFlush key)).accepted key : Int) ≤ Quantity.greatest ∧
      (start.run (droppedFlush key)).pipeline.service.store.stored key +
          (start.run (droppedFlush key)).pipeline.service.tracker.live.get key +
          (start.run (droppedFlush key)).pipeline.service.tracker.inflight.get key =
        (start.run (droppedFlush key)).accepted key := by
  have fits : (((started ⟨1700000000, 0⟩).run (droppedFlush ⟨⟨1⟩, .aiTokens⟩)).accepted
      ⟨⟨1⟩, .aiTokens⟩ : Int) ≤ Quantity.greatest := by decide +kernel
  exact ⟨started ⟨1700000000, 0⟩, ⟨⟨1⟩, .aiTokens⟩, started_fresh _, rfl, fits,
    stored_add_pending_eq_accepted _ (started_fresh _) rfl _ _ fits⟩

end Traffic

end UsageBilling
