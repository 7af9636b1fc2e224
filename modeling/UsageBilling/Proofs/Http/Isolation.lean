import UsageBilling.Proofs.Limits.Abreast
import UsageBilling.Proofs.Tracker.Traffic
/-!
Tenants are kept apart. A request about one tenant may flush the usage of all of them, fail to, or wait
for a flush that somebody else began. Whatever it does, the rows of any other tenant stay as they are,
no unit of it is lost or made, and a check of its limits is answered as if there had been no request.
-/
namespace UsageBilling

def Call.ConfinedTo {β : Type} (tenant : Uuid) : Call β → Prop
  | .ready program => program.ConfinedTo tenant
  | .awaiting next => ∀ result, (next result).ConfinedTo tenant

namespace Traffic

variable {β : Type} {tenant other : Uuid} {call : Nat} {traffic left right : Traffic β}

namespace Step

def Attends (call : Nat) : Step β → Prop
  | .begin _ => False
  | .proceed asked | .cancel asked => asked = call
  | .around move => move.IsBackground

def proceeds : Step β → Bool
  | .proceed _ => true
  | _ => false

end Step

def Confines (traffic : Traffic β) (call : Nat) (tenant : Uuid) : Prop :=
  ∀ state, traffic.calls call = some state → state.ConfinedTo tenant

theorem Confines.make (confines : traffic.Confines call tenant) (move : Move) :
    (traffic.make move).Confines call tenant := by
  intro state found
  rcases notify_cases traffic.calls (notice traffic.pipeline move) call with same |
    ⟨next, result, waits, goes⟩
  · exact confines state (same.symm.trans found)
  · obtain rfl := Option.some.inj (goes.symm.trans found)
    exact confines _ waits result

theorem confines_set (traffic : Traffic β) {state : Option (Call β)}
    (confined : ∀ call, state = some call → call.ConfinedTo tenant) :
    (traffic.set call state).Confines call tenant := by
  intro found present
  rcases calls_set_cases present with ⟨_, same⟩ | ⟨apart, _⟩
  · exact confined found same
  · exact absurd rfl apart

theorem confines_set_none (traffic : Traffic β) : (traffic.set call none).Confines call tenant :=
  confines_set traffic fun _ gone => nomatch gone

/-- Where the call goes on it makes a move for its tenant, or none. -/
theorem proceed_own (confines : traffic.Confines call tenant) :
    (traffic.step (.proceed call)).Confines call tenant ∧
      ((traffic.step (.proceed call)).pipeline = traffic.pipeline ∨
        ∃ move : Move, move.IsFor tenant ∧
          (traffic.step (.proceed call)).pipeline = traffic.pipeline.after move) := by
  unfold step
  dsimp only
  split
  · exact ⟨confines_set_none traffic, .inl rfl⟩
  · next next ready =>
      have rest := confines _ ready
      refine ⟨.make (confines_set traffic fun state same => ?_) _,
        .inr ⟨.event (.flush call), trivial, rfl⟩⟩
      obtain rfl := Option.some.inj same
      exact rest.2
  · next action next _ ready =>
      have rest := confines _ ready
      refine ⟨.make (confines_set traffic fun state same => ?_) _, .inr ⟨.act action, rest.1, rfl⟩⟩
      obtain rfl := Option.some.inj same
      exact rest.2 _
  · exact ⟨confines, .inl rfl⟩

theorem step_background {step : Step β} (attends : step.Attends call) (still : step.proceeds = false) :
    ∃ move : Move, move.IsBackground ∧ ∀ traffic : Traffic β,
      (traffic.step step).pipeline = traffic.pipeline.after move ∧
      (traffic.Confines call tenant → (traffic.step step).Confines call tenant) := by
  cases step with
  | begin program => exact attends.elim
  | proceed asked => cases still
  | cancel asked =>
      obtain rfl : asked = call := attends
      exact ⟨.event (.abandon asked), trivial, fun traffic =>
        ⟨rfl, fun _ => .make (confines_set_none traffic) _⟩⟩
  | around move => exact ⟨move, attends, fun traffic => ⟨rfl, fun confines => confines.make move⟩⟩

/-- What the other tenant sees of two runs from one state, where the call goes on only in the left one. -/
structure Apart (tenant other : Uuid) (call : Nat) (start : Pipeline) (left right : Traffic β) :
    Prop where
  confines : left.Confines call tenant
  level : Pipeline.Level other left.pipeline right.pipeline
  rows : left.pipeline.service.store.rowsOf other = start.service.store.rowsOf other
  held : ∀ metric, Quantity.Carries (start.service.held ⟨other, metric⟩) 0
    (left.pipeline.service.held ⟨other, metric⟩)

variable {start : Pipeline}

theorem Apart.proceed (apart : Apart tenant other call start left right) (different : tenant ≠ other) :
    Apart tenant other call start (left.step (.proceed call)) right := by
  obtain ⟨confines, level, rows, held⟩ := apart
  obtain ⟨kept, same | ⟨move, own, moved⟩⟩ := proceed_own confines
  · exact ⟨kept, by rwa [same], by rwa [same], by rwa [same]⟩
  · refine ⟨kept, ?_, ?_, fun metric => ?_⟩
    · rw [moved]
      exact level.own own different
    · rw [moved, ← (Pipeline.sameTo_own left.pipeline own different).rows, rows]
    · have carries := (Pipeline.after_balanced level.leftBooks move).2 ⟨other, metric⟩
      rw [own.accepts left.pipeline different] at carries
      rw [moved]
      exact (held metric).trans carries

theorem Apart.background (apart : Apart tenant other call start left right) {step : Step β}
    (attends : step.Attends call) (still : step.proceeds = false) :
    Apart tenant other call start (left.step step) (right.step step) := by
  obtain ⟨confines, level, rows, held⟩ := apart
  obtain ⟨move, background, moves⟩ := step_background attends still
  obtain ⟨moved, kept⟩ := moves left
  refine ⟨kept confines, ?_, ?_, fun metric => ?_⟩
  · rw [moved, (moves right).1]
    exact level.background background
  · rw [moved, ← rows]
    unfold Store.rowsOf
    rw [Pipeline.rows_background left.pipeline background]
  · have carries := (Pipeline.after_balanced level.leftBooks move).2 ⟨other, metric⟩
    rw [background.accepts left.pipeline] at carries
    rw [moved]
    exact (held metric).trans carries

theorem Apart.run (apart : Apart tenant other call start left right) (different : tenant ≠ other)
    {steps : List (Step β)} (attends : ∀ step ∈ steps, step.Attends call) :
    Apart tenant other call start (left.run steps)
      (right.run (steps.filter fun step => !step.proceeds)) := by
  induction steps generalizing left right with
  | nil => exact apart
  | cons step steps ih =>
      have rest : ∀ later ∈ steps, later.Attends call :=
        fun later member => attends later (List.mem_cons_of_mem step member)
      have own := attends step List.mem_cons_self
      -- The left run makes each step, the right one all but those of the call.
      cases still : step.proceeds with
      | true =>
          rw [List.filter_cons_of_neg (by simp [still])]
          cases step with
          | proceed asked =>
              obtain rfl : asked = call := own
              exact ih (apart.proceed different) rest
          | _ => cases still
      | false =>
          rw [List.filter_cons_of_pos (by simp [still])]
          exact ih (apart.background own still) rest

theorem balanced_run {start : Traffic β} (fresh : start.pipeline.Fresh) (steps : List (Step β)) :
    (start.run steps).pipeline.Balanced := by
  obtain ⟨moves, ended, _⟩ := start.run_moves steps
  rw [ended]
  exact (fresh.afterAll moves).1

theorem apart_begin (other : Uuid) (traffic : Traffic β) {program : Program β}
    (confined : program.ConfinedTo tenant) (balanced : traffic.pipeline.Balanced)
    (before : traffic.pipeline.service.clock.BeforeLastMonth) :
    Apart tenant other traffic.begun traffic.pipeline (traffic.step (.begin program)) traffic := by
  refine ⟨?_, .refl other balanced before, rfl, fun metric => .refl _⟩
  apply confines_set traffic
  intro call same
  obtain rfl := Option.some.inj same
  exact confined

end Traffic

def Service.total (service : Service) (key : UsageKey) : Int :=
  service.store.stored key + service.tracker.pending key

/-- A total that fits is exact, and stays what it is where no unit is lost or made. -/
theorem Service.Balanced.total_eq {service after : Service} {stage next : Flush} {key : UsageKey}
    (balanced : service.Balanced stage) (later : after.Balanced next)
    (carries : Quantity.Carries (service.held key) 0 (after.held key))
    (fits : service.total key < Quantity.greatest) : after.total key = service.total key := by
  have pending := Tracker.pending_eq_min ⟨balanced.live, balanced.inflight⟩ key
  have left := Tracker.pending_eq_min ⟨later.live, later.inflight⟩ key
  have stored := balanced.stored_nonneg key
  have nonneg := later.stored_nonneg key
  obtain ⟨upper, lower⟩ := carries
  unfold held at upper lower
  unfold total at fits ⊢
  omega

namespace Http

/-- A request about one tenant is answered in any reachable state, one step after the other, while the
tasks of the tracker go on, the writing of usage works or fails, and the provider answers as it likes.
Other tenants keep their rows and all their units. A check of their limits has the answer that it would
have if the request had made no step. -/
theorem respond_isolated {tenant other : Uuid} (different : tenant ≠ other) (site : Site)
    {request : Request} (about : IsAbout request tenant) (start : Traffic Response)
    (fresh : start.pipeline.Fresh) (earlier steps : List (Traffic.Step Response))
    (before : (start.run earlier).pipeline.service.clock.BeforeLastMonth)
    (attends : ∀ step ∈ steps, step.Attends (start.run earlier).begun) :
    let reached := start.run earlier
    let served := ((reached.step (.begin (respond site request))).run steps).pipeline.service
    let unserved := (reached.run (steps.filter fun step => !step.proceeds)).pipeline.service
    served.store.rowsOf other = reached.pipeline.service.store.rowsOf other ∧
      (∀ metric, reached.pipeline.service.total ⟨other, metric⟩ < Quantity.greatest →
        served.total ⟨other, metric⟩ = reached.pipeline.service.total ⟨other, metric⟩) ∧
      ∀ catalog metricName,
        ((LimitCheck.check catalog other metricName).outcome.run served).1 =
          ((LimitCheck.check catalog other metricName).outcome.run unserved).1 := by
  intro reached served unserved
  have balanced := Traffic.balanced_run fresh earlier
  have begun := Traffic.apart_begin other reached (confined_respond site about) balanced before
  obtain ⟨_, level, rows, held⟩ := begun.run different attends
  refine ⟨rows, fun metric fits => ?_, ?_⟩
  · exact balanced.service.total_eq level.leftBooks.service (held metric) fits
  · exact level.same.run_check level.countedUsage

def usageRequest : Request :=
  { method := "GET", target := "/v1/tenants/00000000-0000-0000-0000-000000000001/usage" }

def flushingSteps : List (Traffic.Step Response) :=
  [.proceed 0, .proceed 0] ++ List.replicate 4 (.around (.event .work)) ++
    List.replicate 6 (.proceed 0)

theorem respond_isolated_flushed :
    ∃ (start : Traffic Response) (earlier : List (Traffic.Step Response)),
      IsAbout usageRequest ⟨1⟩ ∧ start.pipeline.Fresh ∧
      (start.run earlier).pipeline.service.clock.BeforeLastMonth ∧
      (∀ step ∈ flushingSteps, step.Attends (start.run earlier).begun) ∧
      let reached := start.run earlier
      let served :=
        ((reached.step (.begin (respond {} usageRequest))).run flushingSteps).pipeline.service
      reached.pipeline.service.store.stored ⟨⟨2⟩, .testRuns⟩ = 0 ∧
      served.store.stored ⟨⟨2⟩, .testRuns⟩ = 5 ∧
      served.total ⟨⟨2⟩, .testRuns⟩ = 5 := by
  let start : Traffic Response := Traffic.started ⟨1700000000, 0⟩
  let earlier : List (Traffic.Step Response) := [.around (.event (.track ⟨⟨2⟩, .testRuns⟩ 5))]
  have different : (⟨1⟩ : Uuid) ≠ ⟨2⟩ := by decide
  have about : IsAbout usageRequest ⟨1⟩ :=
    ⟨"00000000-0000-0000-0000-000000000001".toList, .usage, by decide +kernel, by decide +kernel⟩
  have fresh : start.pipeline.Fresh := Traffic.started_fresh _
  have before : (start.run earlier).pipeline.service.clock.BeforeLastMonth := by decide
  have attends : ∀ step ∈ flushingSteps, step.Attends (start.run earlier).begun := by
    simp [flushingSteps, Traffic.Step.Attends, Move.IsBackground, start, earlier, Traffic.run,
      Traffic.step, Traffic.make, Traffic.started]
  obtain ⟨_, kept, _⟩ := respond_isolated different {} about start fresh earlier flushingSteps before
    attends
  refine ⟨start, earlier, about, fresh, before, attends, by decide +kernel, by decide +kernel, ?_⟩
  exact (kept .testRuns (by decide +kernel)).trans (by decide +kernel)

end Http

end UsageBilling
