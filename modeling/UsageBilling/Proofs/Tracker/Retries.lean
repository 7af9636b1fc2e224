import UsageBilling.Proofs.Tracker.Landing
import UsageBilling.Proofs.Tracker.Wakeups
/-!
Retries of the scheduler. After a flush of its own that failed it begins the next one at a tick and not
before, whoever asks for one meanwhile. A wakeup that is stored during the retries stays stored until one
of them succeeds. Once the scheduler has seen that the tracker is closed it begins no flush any more.
-/
namespace UsageBilling

namespace Pipeline

variable {pipeline : Pipeline} {move : Move}

def attempts (pipeline : Pipeline) (move : Move) : List Trigger :=
  (((pipeline.after move).jobs.drop pipeline.jobs.length).filter fun job =>
    job.flusher = .scheduler).map (·.trigger)

def ending? (pipeline : Pipeline) : Move → Option (Except Fault FlushReport)
  | .event .work => pipeline.jobs.head?.bind fun job =>
    if job.flusher = .scheduler then pipeline.outcome? else none
  | _ => none

def endings (pipeline : Pipeline) : List Move → List (Except Fault FlushReport)
  | [] => []
  | move :: moves => (pipeline.ending? move).toList ++ (pipeline.after move).endings moves

theorem attempts_of_length (shorter : (pipeline.after move).jobs.length ≤ pipeline.jobs.length) :
    pipeline.attempts move = [] := by
  rw [attempts, List.drop_of_length_le shorter]
  rfl

theorem attempts_of_joined {flusher : Flusher} {trigger : Trigger}
    (joined : (pipeline.after move).jobs = pipeline.jobs ++ [⟨flusher, trigger, .queued⟩]) :
    pipeline.attempts move = if flusher = .scheduler then [trigger] else [] := by
  rw [attempts, joined, List.drop_left]
  split
  · next own => simp [own]
  · next other => simp [other]

/-- What a move is to the scheduler. -/
inductive Turn (pipeline : Pipeline) (move : Move) : Prop
  | rests (same : (pipeline.after move).scheduler = pipeline.scheduler)
      (attempts : pipeline.attempts move = []) (ending : pipeline.ending? move = none)
  /-- A tick makes it begin a flush. -/
  | ticks (tick : move = .event .tick)
      (waits : pipeline.scheduler = .waiting ∨ pipeline.scheduler = .retrying)
      (begins : (pipeline.after move).scheduler = .flushing)
      (attempts : pipeline.attempts move =
        [if pipeline.scheduler = .retrying then .retry else .interval])
  /-- A wakeup makes it begin a flush, and is none any more. -/
  | wakes (wake : move = .event .wake) (waits : pipeline.scheduler = .waiting)
      (begins : (pipeline.after move).scheduler = .flushing)
  | ends (result : Except Fault FlushReport) (own : pipeline.ending? move = some result)
      (goesOn : (pipeline.after move).scheduler = if result.isOk then .waiting else .retrying)
      (attempts : pipeline.attempts move = [])
  | stops (stopped : (pipeline.after move).scheduler = .stopped)
      (attempts : pipeline.attempts move = []) (ending : pipeline.ending? move = none)

theorem turn_idle (idle : pipeline.after move = pipeline) (ending : pipeline.ending? move = none) :
    pipeline.Turn move :=
  .rests (by rw [idle]) (attempts_of_length (by rw [idle])) ending

theorem turn_work (pipeline : Pipeline) : pipeline.Turn (.event .work) := by
  cases queue : pipeline.jobs with
  | nil =>
      exact turn_idle (by simp [after, perform, queue]) (by simp [ending?, queue])
  | cons job rest =>
      cases step : (pipeline.service.stepFlush job.trigger job.stage).1 with
      | running next =>
          have worked : pipeline.after (.event .work) = _ := work_of_running queue step
          refine .rests (by rw [worked]) (attempts_of_length ?_) ?_
          · simp [worked, queue]
          · simp [ending?, outcome?, queue, step]
      | finished result =>
          have worked : pipeline.after (.event .work) = _ := work_of_finished queue step
          have none : pipeline.attempts (.event .work) = [] := by
            apply attempts_of_length
            rw [worked, deliver_jobs]
            simp [queue]
          cases flusher : job.flusher with
          | scheduler =>
              refine .ends result ?_ ?_ none
              · simp [ending?, outcome?, queue, step, flusher]
              · rw [worked, flusher]
                rfl
          | caller id =>
              refine .rests ?_ none (by simp [ending?, queue, flusher])
              rw [worked, flusher]
              rfl
          | closing =>
              refine .rests ?_ none (by simp [ending?, queue, flusher])
              rw [worked, flusher]
              rfl

theorem turn (pipeline : Pipeline) (move : Move) : pipeline.Turn move := by
  have dropped : ∀ flusher : Flusher, (pipeline.without flusher).jobs.length ≤ pipeline.jobs.length :=
    fun flusher => List.length_filter_le _ _
  have others : ∀ {move : Move} {flusher : Flusher} {trigger : Trigger}, flusher ≠ .scheduler →
      (pipeline.after move).jobs = pipeline.jobs ++ [⟨flusher, trigger, .queued⟩] →
        pipeline.attempts move = [] := by
    intro move flusher trigger other joined
    rw [attempts_of_joined joined, if_neg other]
  cases move with
  | event event =>
      have effect := pipeline.effect event
      generalize performs : pipeline.perform event = performed at effect
      have next : pipeline.after (.event event) = performed.2 := congrArg Prod.snd performs
      cases effect with
      | booked => exact .rests rfl (attempts_of_length (le_refl _)) rfl
      | called => exact .rests rfl (others (by simp) rfl) rfl
      | worked => exact pipeline.turn_work
      | abandoned => exact .rests rfl (attempts_of_length (dropped _)) rfl
      | ticked waits =>
          refine .ticks rfl waits (by rw [next]; rfl) ?_
          rw [attempts_of_joined (congrArg jobs next), if_pos rfl]
      | woken waits => exact .wakes rfl waits (by rw [next]; rfl)
      | stopped => exact .stops (by rw [next]) (attempts_of_length (by rw [next])) rfl
      | closes =>
          refine .rests (by rw [next]; rfl) (attempts_of_length ?_) rfl
          rw [next]
          exact le_refl _
      | joined => exact .rests (by rw [next]; rfl) (others (by simp) (congrArg jobs next)) rfl
      | expired =>
          refine .rests (by rw [next]; rfl) (attempts_of_length ?_) rfl
          rw [next]
          exact dropped _
      | refused | unclosing => exact turn_idle next rfl
      | early waits => rcases waits with rfl | rfl | rfl | rfl <;> exact turn_idle next rfl
  | act action => cases action <;> exact .rests rfl (attempts_of_length (le_refl _)) rfl
  | drop flusher =>
      cases flusher with
      | scheduler => exact .stops rfl (attempts_of_length (dropped _)) rfl
      | caller id => exact .rests rfl (attempts_of_length (dropped _)) rfl
      | closing => exact .rests rfl (attempts_of_length (dropped _)) rfl
  | put row | switch method down | clock now | backend backend =>
      exact .rests rfl (attempts_of_length (le_refl _)) rfl

theorem ownFlushes_after (pipeline : Pipeline) (move : Move) :
    (pipeline.after move).ownFlushes ≤ pipeline.ownFlushes + (pipeline.attempts move).length := by
  have unchanged : (pipeline.after move).jobs = pipeline.jobs →
      (pipeline.after move).ownFlushes ≤ pipeline.ownFlushes + (pipeline.attempts move).length := by
    intro same
    rw [ownFlushes, same]
    exact Nat.le_add_right _ _
  rcases pipeline.after_cases move with ⟨key, quantity, booked, _⟩ | ⟨rfl, _⟩ |
    ⟨reorders | surrounds, _⟩
  · exact unchanged (by rw [booked])
  · cases queue : pipeline.jobs with
    | nil => exact unchanged (by simp [after, perform, queue])
    | cons job rest =>
        refine le_trans ?_ (Nat.le_add_right _ _)
        rcases work_scheduler queue with ⟨next, jobs, _⟩ | ⟨_, jobs, _⟩ | ⟨_, jobs, _⟩
        · simp [ownFlushes, after, jobs, queue, List.countP_cons]
        · simp [ownFlushes, after, jobs, queue, List.countP_cons]
        · simp [ownFlushes, after, jobs, queue, List.countP_cons]
  · rcases reorders.jobs with same | ⟨flusher, trigger, joined⟩ | ⟨flusher, left⟩
    · exact unchanged same
    · rw [attempts_of_joined joined, ownFlushes, joined, List.countP_append]
      split
      · next own => simp [ownFlushes, own]
      · next other => simp [ownFlushes, other]
    · refine le_trans ?_ (Nat.le_add_right _ _)
      rw [ownFlushes, left]
      exact List.Sublist.countP_le List.filter_sublist
  · exact unchanged surrounds.jobs

structure Halted (pipeline : Pipeline) : Prop where
  stopped : pipeline.scheduler = .stopped
  idle : pipeline.ownFlushes = 0

/-- The scheduler waits for the end of its flush if it has begun one, or it is no more. -/
def Attended (pipeline : Pipeline) : Prop := pipeline.Manned ∨ pipeline.Halted

theorem Attended.idle (attended : pipeline.Attended) (waits : pipeline.scheduler ≠ .flushing) :
    pipeline.ownFlushes = 0 := by
  rcases attended with manned | halted
  · exact manned.idle waits
  · exact halted.idle

theorem Attended.flushing_of_ending (attended : pipeline.Attended) {result : Except Fault FlushReport}
    (ends : pipeline.ending? move = some result) : pipeline.scheduler = .flushing := by
  by_contra waits
  have none := attended.idle waits
  unfold ending? at ends
  split at ends
  · cases queue : pipeline.jobs with
    | nil => simp [queue] at ends
    | cons job rest =>
        rw [ownFlushes, queue, List.countP_cons] at none
        have other : job.flusher ≠ .scheduler := by
          intro own
          simp [own] at none
        simp [queue, other] at ends
  · cases ends

theorem Halted.after (halted : pipeline.Halted) (move : Move) :
    (pipeline.after move).Halted ∧ pipeline.attempts move = [] := by
  have still : (pipeline.after move).scheduler = .stopped ∧ pipeline.attempts move = [] := by
    cases pipeline.turn move with
    | rests same none _ => exact ⟨same.trans halted.stopped, none⟩
    | ticks _ waits _ _ => simp [halted.stopped] at waits
    | wakes _ waits _ => simp [halted.stopped] at waits
    | ends result own _ _ =>
        have flushing := Attended.flushing_of_ending (.inr halted) own
        simp [halted.stopped] at flushing
    | stops stopped none _ => exact ⟨stopped, none⟩
  refine ⟨⟨still.1, ?_⟩, still.2⟩
  have few := pipeline.ownFlushes_after move
  simpa [still.2, halted.idle] using few

theorem Halted.afterAll (halted : pipeline.Halted) (moves : List Move) :
    (pipeline.afterAll moves).Halted :=
  afterAll_induction halted moves fun _ move _ holds => (holds.after move).1

theorem Attended.after (attended : pipeline.Attended) (move : Move) :
    (pipeline.after move).Attended := by
  rcases attended with manned | halted
  · by_cases ends : move = .drop .scheduler
    · refine .inr ⟨by rw [ends]; rfl, ?_⟩
      subst ends
      rw [ownFlushes, List.countP_eq_zero]
      intro job member
      simpa using (List.mem_filter.mp member).2
    · exact .inl (manned.after ends)
  · exact .inr (halted.after move).1

theorem Attended.afterAll (attended : pipeline.Attended) (moves : List Move) :
    (pipeline.afterAll moves).Attended :=
  afterAll_induction attended moves fun _ move _ holds => holds.after move

theorem Attended.halted (attended : pipeline.Attended) (stopped : pipeline.scheduler = .stopped) :
    pipeline.Halted :=
  ⟨stopped, attended.idle (by simp [stopped])⟩

/-- The scheduler waits for a tick before it flushes again, or it never does. -/
structure Resting (pipeline : Pipeline) : Prop where
  attended : pipeline.Attended
  rests : pipeline.scheduler = .retrying ∨ pipeline.scheduler = .stopped

theorem Resting.after (resting : pipeline.Resting) (unticked : move ≠ .event .tick) :
    (pipeline.after move).Resting ∧ pipeline.attempts move = [] := by
  have attended := resting.attended.after move
  cases pipeline.turn move with
  | rests same none _ => exact ⟨⟨attended, same ▸ resting.rests⟩, none⟩
  | ticks tick _ _ _ => exact absurd tick unticked
  | wakes _ waits _ => simpa [waits] using resting.rests
  | ends result own _ _ => simpa [resting.attended.flushing_of_ending own] using resting.rests
  | stops stopped none _ => exact ⟨⟨attended, .inr stopped⟩, none⟩

theorem Resting.afterAll (resting : pipeline.Resting) {moves : List Move}
    (unticked : .event .tick ∉ moves) : (pipeline.afterAll moves).Resting := by
  refine afterAll_induction resting moves fun _ move member holds => (holds.after ?_).1
  rintro rfl
  exact unticked member

/-- After a flush of its own the scheduler waits for everything if that succeeded, and else only for a
tick or its end. -/
theorem scheduler_of_ending {result : Except Fault FlushReport}
    (ends : pipeline.ending? (.event .work) = some result) :
    (pipeline.after (.event .work)).scheduler = if result.isOk then .waiting else .retrying := by
  cases pipeline.turn_work with
  | rests _ _ none => simp [ends] at none
  | ticks tick _ _ _ => cases tick
  | wakes wake _ _ => cases wake
  | ends _ own goesOn _ =>
      obtain rfl := Option.some.inj (ends.symm.trans own)
      exact goesOn
  | stops _ _ none => simp [ends] at none

theorem wakeup_after (stored : pipeline.service.tracker.wakeup = true)
    (busy : pipeline.scheduler ≠ .waiting) (move : Move) :
    (pipeline.after move).service.tracker.wakeup = true := by
  cases move with
  | event event =>
      have effect := pipeline.effect event
      rw [after_event]
      generalize pipeline.perform event = performed at effect ⊢
      cases effect with
      | booked key quantity => exact Service.track_wakeup stored key quantity
      | worked => exact pipeline.wakeup_work.trans stored
      | woken waits => exact absurd waits busy
      | _ => exact stored
  | act action =>
      rcases pipeline.after_act_cases action with ⟨key, quantity, rfl⟩ | rfl | ⟨_, result, keeps⟩
      · exact Service.track_wakeup stored key quantity
      · exact stored
      · rw [result]
        exact keeps.tracker ▸ stored
  | drop flusher => cases flusher <;> exact stored
  | put | switch | clock | backend => exact stored

theorem busy_after (busy : pipeline.scheduler ≠ .waiting)
    (failing : ∀ result ∈ pipeline.ending? move, result.isOk = false) :
    (pipeline.after move).scheduler ≠ .waiting := by
  cases pipeline.turn move with
  | rests same _ _ => rwa [same]
  | ticks _ _ begins _ => simp [begins]
  | wakes _ _ begins => simp [begins]
  | ends result own goesOn _ => simp [goesOn, failing result own]
  | stops stopped _ _ => simp [stopped]

theorem endings_append (pipeline : Pipeline) (first second : List Move) :
    pipeline.endings (first ++ second) =
      pipeline.endings first ++ (pipeline.afterAll first).endings second := by
  induction first generalizing pipeline with
  | nil => rfl
  | cons move moves ih => simp [endings, ih, afterAll_cons]

theorem busy_afterAll (busy : pipeline.scheduler ≠ .waiting) {moves : List Move}
    (failing : ∀ result ∈ pipeline.endings moves, result.isOk = false) :
    (pipeline.afterAll moves).scheduler ≠ .waiting := by
  induction moves generalizing pipeline with
  | nil => exact busy
  | cons move moves ih =>
      simp only [endings, List.mem_append, Option.mem_toList] at failing
      exact ih (busy_after busy fun result own => failing result (.inl own))
        fun result later => failing result (.inr later)

theorem wakeup_afterAll (stored : pipeline.service.tracker.wakeup = true)
    (busy : pipeline.scheduler ≠ .waiting) {moves : List Move}
    (failing : ∀ result ∈ pipeline.endings moves, result.isOk = false) :
    (pipeline.afterAll moves).service.tracker.wakeup = true := by
  induction moves generalizing pipeline with
  | nil => exact stored
  | cons move moves ih =>
      simp only [endings, List.mem_append, Option.mem_toList] at failing
      exact ih (wakeup_after stored busy move)
        (busy_after busy fun result own => failing result (.inl own))
        fun result later => failing result (.inr later)

/-- Whatever else goes on: after a flush of the scheduler that failed, the scheduler begins none before
a tick, and a wakeup that comes up while it retries is there when a retry succeeds. A scheduler that sees
the tracker closed stops, and one that has stopped begins no flush any more. -/
theorem retries_paced {start : Pipeline} (opened : start.Opened) (waiting : start.scheduler = .waiting)
    (before : List Move) :
    let reached := start.afterAll before
    let failed := reached.after (.event .work)
    (∀ fault, reached.ending? (.event .work) = some (.error fault) →
      (∀ between last, (failed.afterAll between).attempts last ≠ [] →
        .event .tick ∈ between ++ [last]) ∧
      ∀ first second report, (∀ result ∈ failed.endings (first ++ second), result.isOk = false) →
        (failed.afterAll first).service.tracker.wakeup = true →
        (failed.afterAll (first ++ second)).ending? (.event .work) = some (.ok report) →
        ((failed.afterAll (first ++ second)).after (.event .work)).scheduler = .waiting ∧
        ((failed.afterAll (first ++ second)).after (.event .work)).service.tracker.wakeup = true) ∧
    (reached.service.tracker.closed = true → reached.scheduler = .waiting ∨ reached.scheduler = .retrying →
      (reached.after (.event .stop)).scheduler = .stopped) ∧
    (reached.scheduler = .stopped → ∀ later last,
      (reached.afterAll later).scheduler = .stopped ∧ (reached.afterAll later).attempts last = []) := by
  intro reached failed
  have attended : reached.Attended := Attended.afterAll (.inl (opened.manned waiting)) before
  refine ⟨fun fault ends => ?_, fun closed waits => ?_, fun stopped later last => ?_⟩
  · have retrying : failed.scheduler = .retrying := scheduler_of_ending ends
    constructor
    · intro between last begins
      by_contra unticked
      simp only [List.mem_append, List.mem_singleton, not_or] at unticked
      have resting : failed.Resting := ⟨attended.after _, .inl retrying⟩
      exact begins ((resting.afterAll unticked.1).after (Ne.symm unticked.2)).2
    · intro first second report failing stored succeeds
      rw [endings_append] at failing
      have busy : (failed.afterAll first).scheduler ≠ .waiting :=
        busy_afterAll (by simp [retrying]) fun result own => failing result (List.mem_append_left _ own)
      have kept := wakeup_afterAll stored busy fun result own => failing result (List.mem_append_right _ own)
      rw [← afterAll_append] at kept
      exact ⟨scheduler_of_ending succeeds, (wakeup_work _).trans kept⟩
  · simp [after, perform, closed, waits]
  · have halted := (attended.halted stopped).afterAll later
    exact ⟨halted.stopped, (halted.after last).2⟩

def outage : List Move :=
  [.event (.track (keyOf 1) 1), .switch .insertUsage true, .event .tick, .event .work, .event .work,
    .event .work]

/-- Two more keys come in, which asks for a flush. The scheduler does not look, nor when somebody else
flushes. -/
def crowded : List Move :=
  [.event (.track (keyOf 2) 1), .event .wake, .event (.flush 7), .event .work, .event .work,
    .event .work, .event .work, .event .work, .event .wake]

def recovery : List Move :=
  [.event .tick, .switch .insertUsage false, .event .work, .event .work, .event .work, .event .work]

def cancelled : List Move := [.event .work, .event .close, .event .stop]

/-- The scheduler begins no flush when it is woken but one at the tick, the wakeup is there after that,
and at its end the scheduler begins none any more. -/
theorem retries_paced_outage :
    let failed := (narrow.afterAll outage).after (.event .work)
    let ended := narrow.afterAll (outage ++ .event .work :: (crowded ++ recovery ++ cancelled))
    .event .tick ∈ crowded ++ [.event .tick] ∧
    ((failed.afterAll (crowded ++ recovery)).after (.event .work)).service.tracker.wakeup = true ∧
    ∀ later last, (ended.afterAll later).scheduler = .stopped ∧
      (ended.afterAll later).attempts last = [] := by
  dsimp only
  obtain ⟨spaced, kept⟩ := (retries_paced narrow_opened rfl outage).1
    (Store.Method.outage .insertUsage) (by decide +kernel)
  have ticked := spaced crowded (.event .tick) (by decide +kernel)
  have recovered := kept crowded recovery ⟨2, 2⟩ (by decide +kernel) (by decide +kernel)
    (by decide +kernel)
  have stops := (retries_paced narrow_opened rfl
    (outage ++ .event .work :: (crowded ++ recovery ++ cancelled))).2.2 (by decide +kernel)
  exact ⟨ticked, recovered.2, stops⟩

end Pipeline

end UsageBilling
