import UsageBilling.Proofs.Tracker.Traffic
/-!
A call that goes on while nothing else happens. The steps of its flush then follow each other, and the
call returns what its program comes to when it runs from start to end with nothing in between. Where
another flush is before its own it waits, and returns nothing.
-/
namespace UsageBilling

def Service.finishFlush (service : Service) (trigger : Trigger) :
    Flush → Except Fault FlushReport × Service
  | .queued => service.flush trigger
  | .stamping now records rest => service.endFlush trigger (service.stampAll now records rest)
  | .writing records => service.endFlush trigger records

section Flushes

variable {service after : Service} {trigger : Trigger} {stage next : Flush}

theorem Service.finishFlush_of_running
    (runs : service.stepFlush trigger stage = (.running next, after)) :
    service.finishFlush trigger stage = after.finishFlush trigger next := by
  cases stage with
  | queued =>
      unfold stepFlush at runs
      dsimp only at runs
      split at runs
      · cases runs
      · next filled =>
          cases runs
          simp only [finishFlush, flush, filled]
          rfl
  | stamping now records rest =>
      cases rest <;> cases runs <;> rfl
  | writing records => cases runs

theorem Service.finishFlush_of_finished {result : Except Fault FlushReport}
    (ends : service.stepFlush trigger stage = (.finished result, after)) :
    service.finishFlush trigger stage = (result, after) := by
  cases stage with
  | queued =>
      unfold stepFlush at ends
      dsimp only at ends
      split at ends
      · next empty =>
          cases ends
          simp only [finishFlush, flush, empty, if_true]
      · cases ends
  | stamping now records rest =>
      cases rest <;> cases ends
  | writing records =>
      cases ends
      rfl

end Flushes

namespace Traffic

variable {β : Type} {call : Nat} {traffic : Traffic β}

def owns (traffic : Traffic β) (call : Nat) : Step β → Bool
  | .proceed asked => asked = call
  | .around (.event .work) => traffic.pipeline.jobs.head?.any fun job => job.flusher = .caller call
  | _ => false

def ownsAll (traffic : Traffic β) (call : Nat) : List (Step β) → Bool
  | [] => true
  | step :: steps => traffic.owns call step && (traffic.step step).ownsAll call steps

/-- Behind `others` the call is going to end with `outcome`, and has returned nothing but `told` before,
as long as nothing else happens. -/
inductive Heads (call : Nat) (others : List Job) (told : List (Nat × β)) (outcome : β × Service)
    (traffic : Traffic β) : Prop
  | ready (program : Program β) (found : traffic.calls call = some (.ready program))
      (queue : traffic.pipeline.jobs = others) (returned : traffic.returned = told)
      (comes : program.run traffic.pipeline.service = outcome)
  | awaiting (next : Except Fault FlushReport → Program β) (stage : Flush)
      (found : traffic.calls call = some (.awaiting next))
      (queue : traffic.pipeline.jobs = others ++ [⟨.caller call, .manual, stage⟩])
      (returned : traffic.returned = told)
      (comes : (next (traffic.pipeline.service.finishFlush .manual stage).1).run
        (traffic.pipeline.service.finishFlush .manual stage).2 = outcome)
  | returned (gone : traffic.calls call = none) (queue : traffic.pipeline.jobs = others)
      (returned : traffic.returned = told ++ [(call, outcome.1)])
      (comes : traffic.pipeline.service = outcome.2)

variable {others : List Job} {told : List (Nat × β)} {outcome : β × Service}

theorem step_of_done {result : β} (found : traffic.calls call = some (.ready (.done result))) :
    traffic.step (.proceed call) =
      { traffic.set call none with returned := traffic.returned ++ [(call, result)] } := by
  simp only [step, found]

theorem step_of_flush {next : Except Fault FlushReport → Program β}
    (found : traffic.calls call = some (.ready (.step .flush next))) :
    traffic.step (.proceed call) =
      (traffic.set call (some (.awaiting next))).make (.event (.flush call)) := by
  simp only [step, found]

theorem step_of_action {action : Action} {next : action.Reply → Program β} (idle : action ≠ .flush)
    (found : traffic.calls call = some (.ready (.step action next))) :
    traffic.step (.proceed call) =
      (traffic.set call (some (.ready (next (traffic.pipeline.service.perform action).1)))).make
        (.act action) := by
  cases action with
  | flush => exact absurd rfl idle
  | _ => simp only [step, found]

theorem Heads.proceed (heads : traffic.Heads call others told outcome) :
    (traffic.step (.proceed call)).Heads call others told outcome := by
  cases heads with
  | ready program found queue silent comes =>
      cases program with
      | done result =>
          rw [step_of_done found]
          subst comes
          exact .returned (Function.update_self call _ _) queue (by simp [silent, Program.run]) rfl
      | step action next =>
          by_cases flushes : action = .flush
          · subst flushes
            rw [step_of_flush found]
            refine .awaiting next .queued (Function.update_self call _ _) ?_ silent comes
            simp [make, set, Pipeline.after, Pipeline.perform, Pipeline.enqueue, queue]
          · rw [step_of_action flushes found]
            refine .ready _ (Function.update_self call _ _) ?_ silent ?_
            · simp [make, set, Pipeline.after_act _ flushes, queue]
            · simpa [make, set, Pipeline.after_act _ flushes, Program.run] using comes
  | awaiting next stage found queue silent comes =>
      have waits : traffic.step (.proceed call) = traffic := by simp only [step, found]
      rw [waits]
      exact .awaiting next stage found queue silent comes
  | returned gone queue told comes =>
      have idle : traffic.step (.proceed call) = traffic := by simp only [step, gone]
      rw [idle]
      exact .returned gone queue told comes

theorem owns_work : traffic.owns call (.around (.event .work)) = true ↔
    ∃ job rest, traffic.pipeline.jobs = job :: rest ∧ job.flusher = .caller call := by
  cases queue : traffic.pipeline.jobs with
  | nil => simp [owns, queue]
  | cons job rest => simp [owns, queue]

theorem make_work_running {job : Job} {rest : List Job} {next : Flush} {after : Service}
    (queue : traffic.pipeline.jobs = job :: rest)
    (runs : traffic.pipeline.service.stepFlush job.trigger job.stage = (.running next, after)) :
    (traffic.make (.event .work)).calls = traffic.calls ∧
      (traffic.make (.event .work)).pipeline.service = after ∧
      (traffic.make (.event .work)).pipeline.jobs = { job with stage := next } :: rest := by
  simp [make, notice, notify, Pipeline.after, Pipeline.perform, queue, runs]

theorem make_work_finished {trigger : Trigger} {stage : Flush} {rest : List Job}
    {next : Except Fault FlushReport → Program β} {result : Except Fault FlushReport}
    {after : Service} (found : traffic.calls call = some (.awaiting next))
    (queue : traffic.pipeline.jobs = ⟨.caller call, trigger, stage⟩ :: rest)
    (ends : traffic.pipeline.service.stepFlush trigger stage = (.finished result, after)) :
    (traffic.make (.event .work)).calls call = some (.ready (next result)) ∧
      (traffic.make (.event .work)).pipeline.service = after ∧
      (traffic.make (.event .work)).pipeline.jobs = rest := by
  simp [make, notice, notify, Pipeline.after, Pipeline.perform, Pipeline.deliver, queue, ends, found]

theorem Heads.work (heads : traffic.Heads call others told outcome)
    (apart : ∀ job ∈ others, job.flusher ≠ .caller call)
    (own : traffic.owns call (.around (.event .work)) = true) :
    (traffic.make (.event .work)).Heads call others told outcome := by
  obtain ⟨job, rest, queue, flusher⟩ := owns_work.mp own
  -- The flush that holds the lock is that of the call, and `others` has none of those.
  have foreign : traffic.pipeline.jobs ≠ others := by
    rintro rfl
    exact apart job (by simp [queue]) flusher
  cases heads with
  | ready program found same silent comes => exact absurd same foreign
  | returned gone same silent comes => exact absurd same foreign
  | awaiting next stage found line silent comes =>
      cases others with
      | cons first others =>
          obtain rfl : first = job := by simpa using congrArg List.head? (line.symm.trans queue)
          exact absurd flusher (apart first List.mem_cons_self)
      | nil =>
          rcases step : traffic.pipeline.service.stepFlush .manual stage with ⟨later | result, after⟩
          · obtain ⟨calls, service, jobs⟩ := make_work_running line step
            rw [Service.finishFlush_of_running step] at comes
            exact .awaiting next later (calls ▸ found) jobs silent (service ▸ comes)
          · obtain ⟨ready, service, jobs⟩ := make_work_finished found line step
            rw [Service.finishFlush_of_finished step] at comes
            exact .ready _ ready jobs silent (service ▸ comes)

theorem Heads.run (heads : traffic.Heads call others told outcome)
    (apart : ∀ job ∈ others, job.flusher ≠ .caller call) {steps : List (Step β)}
    (own : traffic.ownsAll call steps = true) :
    (traffic.run steps).Heads call others told outcome := by
  induction steps generalizing traffic with
  | nil => exact heads
  | cons step steps ih =>
      obtain ⟨first, later⟩ := Bool.and_eq_true_iff.mp own
      refine ih ?_ later
      unfold owns at first
      split at first
      · obtain rfl := of_decide_eq_true first
        exact heads.proceed
      · exact heads.work apart first
      · cases first

def Returns (traffic : Traffic β) (call : Nat) : Prop :=
  ∃ steps, traffic.ownsAll call steps = true ∧ (traffic.run steps).calls call = none

theorem Returns.step {step : Step β} (own : traffic.owns call step = true)
    (returns : (traffic.step step).Returns call) : traffic.Returns call := by
  obtain ⟨steps, owns, gone⟩ := returns
  exact ⟨step :: steps, Bool.and_eq_true_iff.mpr ⟨own, owns⟩, gone⟩

theorem owns_of_head {trigger : Trigger} {stage : Flush} {rest : List Job}
    (queue : traffic.pipeline.jobs = ⟨.caller call, trigger, stage⟩ :: rest) :
    traffic.owns call (.around (.event .work)) = true :=
  owns_work.mpr ⟨_, _, queue, rfl⟩

/-- Whatever its flush comes to, the call returns afterwards. -/
def Resumes (call : Nat) (next : Except Fault FlushReport → Program β) : Prop :=
  ∀ result (after : Traffic β), after.calls call = some (.ready (next result)) →
    after.pipeline.jobs = [] → after.Returns call

section Resumes

variable {next : Except Fault FlushReport → Program β} {stage : Flush}

theorem Resumes.ended (resumes : Resumes call next) (found : traffic.calls call = some (.awaiting next))
    (queue : traffic.pipeline.jobs = [⟨.caller call, .manual, stage⟩])
    {result : Except Fault FlushReport} {after : Service}
    (step : traffic.pipeline.service.stepFlush .manual stage = (.finished result, after)) :
    traffic.Returns call := by
  obtain ⟨ready, _, jobs⟩ := make_work_finished found queue step
  exact .step (owns_of_head queue) (resumes _ _ ready jobs)

theorem Resumes.stamping (resumes : Resumes call next) {now : Instant} {records : List NewUsage}
    {rest : Buffer} (found : traffic.calls call = some (.awaiting next))
    (queue : traffic.pipeline.jobs = [⟨.caller call, .manual, .stamping now records rest⟩]) :
    traffic.Returns call := by
  induction rest generalizing traffic records with
  | nil =>
      obtain ⟨calls, _, jobs⟩ := make_work_running queue rfl
      exact .step (owns_of_head queue) (resumes.ended (calls ▸ found) jobs rfl)
  | cons entry rest ih =>
      obtain ⟨calls, _, jobs⟩ := make_work_running queue rfl
      exact .step (owns_of_head queue) (ih (calls ▸ found) jobs)

theorem Resumes.awaiting (resumes : Resumes call next)
    (found : traffic.calls call = some (.awaiting next))
    (queue : traffic.pipeline.jobs = [⟨.caller call, .manual, stage⟩]) : traffic.Returns call := by
  cases stage with
  | stamping now records rest => exact resumes.stamping found queue
  | writing records => exact resumes.ended found queue rfl
  | queued =>
      rcases step : traffic.pipeline.service.stepFlush .manual .queued with ⟨later | result, after⟩
      · obtain ⟨calls, _, jobs⟩ := make_work_running queue step
        unfold Service.stepFlush at step
        dsimp only at step
        split at step
        · cases step
        · cases step
          exact .step (owns_of_head queue) (resumes.stamping (calls ▸ found) jobs)
      · exact resumes.ended found queue step

end Resumes

theorem returns_of_ready (program : Program β) {traffic : Traffic β}
    (found : traffic.calls call = some (.ready program)) (free : traffic.pipeline.jobs = []) :
    traffic.Returns call := by
  induction program generalizing traffic with
  | done result =>
      refine ⟨[.proceed call], by simp [ownsAll, owns], ?_⟩
      change (traffic.step (.proceed call)).calls call = none
      rw [step_of_done found]
      exact Function.update_self call _ _
  | step action next ih =>
      have own : traffic.owns call (.proceed call) = true := decide_eq_true rfl
      apply Returns.step own
      by_cases flushes : action = .flush
      · subst flushes
        have queue : (traffic.step (.proceed call)).pipeline.jobs =
            [⟨.caller call, .manual, .queued⟩] := by
          rw [step_of_flush found]
          simp [make, set, Pipeline.after, Pipeline.perform, Pipeline.enqueue, free]
        have resumes : Resumes call next := fun result after ready jobs => ih result ready jobs
        refine resumes.awaiting ?_ queue
        rw [step_of_flush found]
        exact Function.update_self call _ _
      · rw [step_of_action flushes found]
        refine ih _ (Function.update_self call _ _) ?_
        simp [make, set, Pipeline.after_act _ flushes, free]

/-- A call that goes on by itself returns, unless another flush is before its own, and then what its
program comes to with nothing in between. -/
theorem returns_alone {program : Program β} (found : traffic.calls call = some (.ready program))
    (apart : ∀ job ∈ traffic.pipeline.jobs, job.flusher ≠ .caller call) :
    (traffic.pipeline.jobs = [] → traffic.Returns call) ∧
    ∀ steps, traffic.ownsAll call steps = true → (traffic.run steps).calls call = none →
      (traffic.run steps).returned =
        traffic.returned ++ [(call, (program.run traffic.pipeline.service).1)] ∧
      (traffic.run steps).pipeline.service = (program.run traffic.pipeline.service).2 := by
  refine ⟨returns_of_ready program found, fun steps own gone => ?_⟩
  have heads : traffic.Heads call traffic.pipeline.jobs traffic.returned
      (program.run traffic.pipeline.service) := .ready program found rfl rfl rfl
  cases heads.run apart own with
  | ready program present _ _ _ => simp [gone] at present
  | awaiting next stage present _ _ _ => simp [gone] at present
  | returned _ _ told comes => exact ⟨told, comes⟩

end Traffic

end UsageBilling
