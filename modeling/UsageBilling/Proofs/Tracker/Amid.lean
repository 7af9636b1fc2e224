import UsageBilling.Proofs.Service.Conduct
import UsageBilling.Proofs.Tracker.Stamps
/-!
A program that runs on a service among other moves. Before each of its actions come those that the
schedule has for it; its own actions are moves as well. The programs here do not ask for flushes.
-/
namespace UsageBilling

namespace Program

variable {α β : Type}

/-- What the program comes to, what is left of the schedule, and all moves that were made. -/
def amid : Program α → List (List Move) → Pipeline → α × List (List Move) × List Move
  | .done result, schedule, _ => (result, schedule, [])
  | .step action next, schedule, pipeline =>
    let met := pipeline.afterAll (schedule.headD [])
    let rest := (next (met.service.perform action).1).amid schedule.tail (met.after (.act action))
    (rest.1, rest.2.1, schedule.headD [] ++ .act action :: rest.2.2)

theorem amid_bind (program : Program α) (next : α → Program β) (schedule : List (List Move))
    (pipeline : Pipeline) : (program >>= next).amid schedule pipeline =
      let first := program.amid schedule pipeline
      let rest := (next first.1).amid first.2.1 (pipeline.afterAll first.2.2)
      (rest.1, rest.2.1, first.2.2 ++ rest.2.2) := by
  induction program generalizing schedule pipeline with
  | done result => rfl
  | step action later ih =>
      change ((step action fun reply => later reply >>= next).amid schedule pipeline) = _
      simp only [amid, ih, Pipeline.afterAll_append, Pipeline.afterAll_cons, List.append_assoc,
        List.cons_append]

/-- Whatever calm moves come before each action, `holds` in the end of the result and the moves. -/
def Ensures : Program α → Pipeline → (α → List Move → Prop) → Prop
  | .done result, _, holds => holds result []
  | .step action next, pipeline, holds => ∀ others, (∀ move ∈ others, move.Calm) →
    (next ((pipeline.afterAll others).service.perform action).1).Ensures
      ((pipeline.afterAll others).after (.act action))
      fun result made => holds result (others ++ .act action :: made)

theorem Ensures.amid {program : Program α} {pipeline : Pipeline} {holds : α → List Move → Prop}
    (ensures : program.Ensures pipeline holds) {schedule : List (List Move)}
    (calm : ∀ moves ∈ schedule, ∀ move ∈ moves, move.Calm) :
    holds (program.amid schedule pipeline).1 (program.amid schedule pipeline).2.2 := by
  induction program generalizing pipeline holds schedule with
  | done result => exact ensures
  | step action next ih =>
      have head : ∀ move ∈ schedule.headD [], move.Calm := by
        cases schedule with
        | nil => simp
        | cons moves schedule => exact calm moves List.mem_cons_self
      exact ih _ (ensures (schedule.headD []) head) fun moves member =>
        calm moves (List.mem_of_mem_tail member)

theorem Ensures.mono {program : Program α} {pipeline : Pipeline}
    {holds later : α → List Move → Prop} (ensures : program.Ensures pipeline holds)
    (implies : ∀ result made, holds result made → later result made) :
    program.Ensures pipeline later := by
  induction program generalizing pipeline holds later with
  | done result => exact implies result [] ensures
  | step action next ih =>
      intro others calm
      exact ih _ (ensures others calm) fun result made => implies result _

theorem ensures_bind {program : Program α} {next : α → Program β} {pipeline : Pipeline}
    {holds : β → List Move → Prop} (ensures : program.Ensures pipeline fun result made =>
      (next result).Ensures (pipeline.afterAll made) fun last rest => holds last (made ++ rest)) :
    (program >>= next).Ensures pipeline holds := by
  induction program generalizing pipeline holds with
  | done result => exact ensures
  | step action later ih =>
      intro others calm
      apply ih
      refine (ensures others calm).mono fun result made inside => ?_
      simp only [Pipeline.afterAll_append, Pipeline.afterAll_cons] at inside
      refine inside.mono fun last rest holds => ?_
      rwa [List.append_assoc] at holds

theorem amid_calm (program : Program α) {schedule : List (List Move)}
    (calm : ∀ moves ∈ schedule, ∀ move ∈ moves, move.Calm) (pipeline : Pipeline) :
    (∀ moves ∈ (program.amid schedule pipeline).2.1, ∀ move ∈ moves, move.Calm) ∧
      ∀ move ∈ (program.amid schedule pipeline).2.2, move.Calm := by
  induction program generalizing schedule pipeline with
  | done result => exact ⟨calm, by simp [amid]⟩
  | step action next ih =>
      have head : ∀ move ∈ schedule.headD [], move.Calm := by
        cases schedule with
        | nil => simp
        | cons moves schedule => exact calm moves List.mem_cons_self
      obtain ⟨left, made⟩ := ih ((pipeline.afterAll (schedule.headD [])).service.perform action).1
        (fun moves member => calm moves (List.mem_of_mem_tail member))
        ((pipeline.afterAll (schedule.headD [])).after (.act action))
      refine ⟨left, ?_⟩
      intro move member
      rcases List.mem_append.mp member with earlier | later
      · exact head move earlier
      · rcases List.mem_cons.mp later with rfl | later
        · trivial
        · exact made move later

/-- What holds in the end whatever the program is answered, holds among any moves. -/
theorem Obeys.amid {Knowledge : Type} {rules : Rules Knowledge} {known : Knowledge}
    {program : Program α} {holds : α → Knowledge → Prop} (obeys : program.Obeys rules known holds)
    (schedule : List (List Move)) (pipeline : Pipeline) :
    ∃ learnt, holds (program.amid schedule pipeline).1 learnt := by
  induction program generalizing known schedule pipeline with
  | done result => exact ⟨known, obeys⟩
  | step action next ih => exact ih _ (obeys.2 _) _ _

end Program

namespace Attempt

variable {α β : Type}

theorem amid_bind_ok {attempt : Attempt α} {next : α → Attempt β} {schedule : List (List Move)}
    {pipeline : Pipeline} {result : α} (succeeds : (attempt.outcome.amid schedule pipeline).1 = .ok result) :
    (attempt >>= next).outcome.amid schedule pipeline =
      let first := attempt.outcome.amid schedule pipeline
      let rest := (next result).outcome.amid first.2.1 (pipeline.afterAll first.2.2)
      (rest.1, rest.2.1, first.2.2 ++ rest.2.2) := by
  change (attempt.outcome >>= fun reply => _).amid schedule pipeline = _
  simp only [Program.amid_bind, succeeds]
  rfl

theorem ok_of_amid_bind {attempt : Attempt α} {next : α → Attempt β} {schedule : List (List Move)}
    {pipeline : Pipeline} {last : β}
    (ends : ((attempt >>= next).outcome.amid schedule pipeline).1 = .ok last) :
    let first := attempt.outcome.amid schedule pipeline
    ∃ result, first.1 = .ok result ∧
      ((next result).outcome.amid first.2.1 (pipeline.afterAll first.2.2)).1 = .ok last := by
  intro first
  cases reply : first.1 with
  | ok result =>
      rw [amid_bind_ok reply] at ends
      exact ⟨result, rfl, ends⟩
  | error fault =>
      change ((attempt.outcome >>= fun reply => _).amid schedule pipeline).1 = _ at ends
      rw [Program.amid_bind] at ends
      simp only [first] at reply
      simp only [reply] at ends
      cases ends

end Attempt

end UsageBilling
