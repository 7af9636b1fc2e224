import UsageBilling.Proofs.Service.Frame
import UsageBilling.Tracker.Pipeline
/-!
A service at work among other things: events of its tracker, single actions of calls, tasks that are
dropped, and changes from outside, in any order. Between two moves nothing is under way but what the
state tells.
-/
namespace UsageBilling

inductive Move where
  | event (event : Pipeline.Event)
  /-- Some call carries out an action. A flush is none: it is begun by an event and waited for. -/
  | act (action : Action)
  /-- The task that began a flush is dropped, and its flush with it. -/
  | drop (flusher : Flusher)
  /-- A subscription is written over. -/
  | put (row : Subscription)
  | switch (method : Store.Method) (down : Bool)
  | clock (now : Instant)
  | backend (backend : Provider.Backend)

namespace Pipeline

def withStore (pipeline : Pipeline) (store : Store) : Pipeline :=
  { pipeline with service := { pipeline.service with store } }

def abandon (pipeline : Pipeline) (flusher : Flusher) : Pipeline :=
  match flusher with
  | .scheduler => { pipeline.without .scheduler with scheduler := .stopped }
  | .caller id => pipeline.without (.caller id)
  | .closing => { pipeline.without .closing with closing := none }

def after (pipeline : Pipeline) : Move → Pipeline
  | .event event => (pipeline.perform event).2
  | .act .flush => pipeline
  | .act action => { pipeline with service := (pipeline.service.perform action).2 }
  | .drop flusher => pipeline.abandon flusher
  | .put row => pipeline.withStore (pipeline.service.store.put row)
  | .switch method down => pipeline.withStore (pipeline.service.store.setOutage method down)
  | .clock now => { pipeline with service := { pipeline.service with clock := now } }
  | .backend backend => { pipeline with service := { pipeline.service with backend } }

def afterAll (pipeline : Pipeline) (moves : List Move) : Pipeline := moves.foldl after pipeline

def accepts (pipeline : Pipeline) (key : UsageKey) : Move → Nat
  | .event (.track tracked quantity) | .act (.track tracked quantity) =>
    if tracked = key ∧ (pipeline.service.track tracked quantity).1.isOk then quantity else 0
  | _ => 0

def accepted (pipeline : Pipeline) (key : UsageKey) : List Move → Nat
  | [] => 0
  | move :: moves => pipeline.accepts key move + (pipeline.after move).accepted key moves

theorem afterAll_cons (pipeline : Pipeline) (move : Move) (moves : List Move) :
    pipeline.afterAll (move :: moves) = (pipeline.after move).afterAll moves := rfl

theorem afterAll_append (pipeline : Pipeline) (first second : List Move) :
    pipeline.afterAll (first ++ second) = (pipeline.afterAll first).afterAll second :=
  List.foldl_append

theorem accepted_append (pipeline : Pipeline) (key : UsageKey) (first second : List Move) :
    pipeline.accepted key (first ++ second) =
      pipeline.accepted key first + (pipeline.afterAll first).accepted key second := by
  induction first generalizing pipeline with
  | nil => simp [accepted, afterAll]
  | cons move moves ih =>
      rw [List.cons_append, accepted, accepted, ih, afterAll_cons, Nat.add_assoc]

theorem afterAll_induction {P : Pipeline → Prop} {pipeline : Pipeline} (before : P pipeline)
    (moves : List Move) (kept : ∀ pipeline move, move ∈ moves → P pipeline → P (pipeline.after move)) :
    P (pipeline.afterAll moves) := by
  induction moves generalizing pipeline with
  | nil => exact before
  | cons move moves ih =>
      apply ih (kept pipeline move List.mem_cons_self before)
      intro later next member holds
      exact kept later next (List.mem_cons_of_mem move member) holds

structure Fresh (pipeline : Pipeline) : Prop where
  usage : pipeline.service.store.usage = []
  live : pipeline.service.tracker.live = []
  inflight : pipeline.service.tracker.inflight = []
  jobs : pipeline.jobs = []

def stage (pipeline : Pipeline) : Flush := (pipeline.jobs.head?.map Job.stage).getD .queued

/-- Only the flush that holds the lock has begun. -/
def Exclusive (pipeline : Pipeline) : Prop := ∀ job ∈ pipeline.jobs.tail, job.stage = .queued

theorem stage_of_nil {pipeline : Pipeline} (empty : pipeline.jobs = []) : pipeline.stage = .queued := by
  simp [stage, empty]

theorem stage_of_cons {pipeline : Pipeline} {job : Job} {rest : List Job}
    (jobs : pipeline.jobs = job :: rest) : pipeline.stage = job.stage := by
  simp [stage, jobs]

theorem Exclusive.rest {pipeline : Pipeline} (exclusive : pipeline.Exclusive) {first : Job}
    {rest : List Job} (jobs : pipeline.jobs = first :: rest) :
    ∀ other ∈ rest, other.stage = .queued := by
  intro other member
  exact exclusive other (by simpa [jobs] using member)

theorem stage_of_waiting {pipeline : Pipeline}
    (waiting : ∀ job ∈ pipeline.jobs, job.stage = .queued) : pipeline.stage = .queued := by
  cases jobs : pipeline.jobs with
  | nil => exact stage_of_nil jobs
  | cons job rest =>
      rw [stage_of_cons jobs]
      exact waiting job (by simp [jobs])

theorem Exclusive.stage_of_done {pipeline after : Pipeline} (exclusive : pipeline.Exclusive)
    {first : Job} {rest : List Job} (jobs : pipeline.jobs = first :: rest) (queue : after.jobs = rest) :
    after.stage = .queued :=
  stage_of_waiting (queue ▸ exclusive.rest jobs)

/-- Only flags of the tracker, tasks and the queue have changed; nobody in the queue has moved on. -/
structure Reorders (before after : Pipeline) : Prop where
  service : ∃ wakeup closed, after.service =
    { before.service with tracker := { before.service.tracker with wakeup, closed } }
  jobs : after.jobs = before.jobs ∨
    (∃ (flusher : Flusher) (trigger : Trigger), after.jobs = before.jobs ++ [Job.mk flusher trigger .queued]) ∨
    ∃ flusher : Flusher, after.jobs = before.jobs.filter fun job => job.flusher ≠ flusher

section Reorders

variable {before after : Pipeline}

theorem Reorders.exclusive (reorders : Reorders before after) (exclusive : before.Exclusive) :
    after.Exclusive := by
  intro job member
  rcases reorders.jobs with same | ⟨flusher, trigger, joined⟩ | ⟨flusher, left⟩
  · exact exclusive job (same ▸ member)
  · cases jobs : before.jobs with
    | nil => simp [joined, jobs] at member
    | cons first rest =>
        simp only [joined, jobs, List.cons_append, List.tail_cons, List.mem_append,
          List.mem_singleton] at member
        rcases member with waiting | rfl
        · exact exclusive job (by simpa [jobs] using waiting)
        · rfl
  · cases jobs : before.jobs with
    | nil => simp [left, jobs] at member
    | cons first rest =>
        have waiting := exclusive.rest jobs
        simp only [left, jobs, List.filter_cons] at member
        split at member
        · exact waiting job (List.mem_of_mem_filter member)
        · exact waiting job (List.mem_of_mem_filter (List.mem_of_mem_tail member))

theorem Reorders.stage (reorders : Reorders before after) (exclusive : before.Exclusive) :
    after.stage = before.stage ∨ after.stage = .queued := by
  rcases reorders.jobs with same | ⟨flusher, trigger, joined⟩ | ⟨flusher, left⟩
  · exact .inl (by simp [Pipeline.stage, same])
  · left
    cases jobs : before.jobs with
    | nil => simp [Pipeline.stage, joined, jobs]
    | cons first rest => simp [Pipeline.stage, joined, jobs]
  · cases jobs : before.jobs with
    | nil => exact .inl (by simp [Pipeline.stage, left, jobs])
    | cons first rest =>
        by_cases kept : first.flusher ≠ flusher
        · left
          simp [Pipeline.stage, left, jobs, kept]
        · right
          apply stage_of_waiting
          intro job member
          simp only [left, jobs, List.filter_cons, kept, decide_false, Bool.false_eq_true,
            if_false] at member
          exact exclusive job (by simpa [jobs] using List.mem_of_mem_filter member)

end Reorders

theorem Reorders.refl (pipeline : Pipeline) : Reorders pipeline pipeline :=
  ⟨⟨_, _, rfl⟩, .inl rfl⟩

theorem after_event (pipeline : Pipeline) (event : Event) :
    pipeline.after (.event event) = (pipeline.perform event).2 := rfl

/-- What an event comes to. Whatever holds of all events is proved by these cases. -/
inductive Effect (pipeline : Pipeline) : Event → Option Notice × Pipeline → Prop
  | booked (key : UsageKey) (quantity : Nat) :
      Effect pipeline (.track key quantity) (some (.tracked (pipeline.service.track key quantity).1),
        { pipeline with service := (pipeline.service.track key quantity).2 })
  | called (caller : Nat) :
      Effect pipeline (.flush caller) (none, pipeline.enqueue (.caller caller) .manual)
  | worked : Effect pipeline .work (pipeline.perform .work)
  | abandoned (caller : Nat) :
      Effect pipeline (.abandon caller) (none, pipeline.without (.caller caller))
  | ticked (waits : pipeline.scheduler = .waiting ∨ pipeline.scheduler = .retrying) :
      Effect pipeline .tick (none, { pipeline with scheduler := .flushing }.enqueue .scheduler
        (if pipeline.scheduler = Scheduler.retrying then .retry else .interval))
  | woken (waits : pipeline.scheduler = .waiting)
      (wakeup : pipeline.service.tracker.wakeup = true) :
      Effect pipeline .wake (none, ({ pipeline with scheduler := .flushing }.withTracker
        { pipeline.service.tracker with wakeup := false }).enqueue .scheduler .threshold)
  | stopped (closed : pipeline.service.tracker.closed = true)
      (waits : pipeline.scheduler = .waiting ∨ pipeline.scheduler = .retrying) :
      Effect pipeline .stop (none, { pipeline with scheduler := .stopped })
  | closes (opened : pipeline.service.tracker.closed = false) :
      Effect pipeline .close (none, { pipeline with closing := some .schedulerEnd }.withTracker
        { pipeline.service.tracker with closed := true })
  | joined (waits : pipeline.closing = some .schedulerEnd) (stopped : pipeline.scheduler = .stopped) :
      Effect pipeline .join
        (none, { pipeline with closing := some .flushEnd }.enqueue .closing .shutdown)
  | expired (limitSecs : Nat) (closing : pipeline.closing.isSome) :
      Effect pipeline (.expire limitSecs)
        (some (.closed (.error (.timedOut limitSecs pipeline.service.tracker.unflushedKeys
          pipeline.service.tracker.unflushedQuantity))),
          { pipeline with closing := none }.without .closing)
  | refused (closed : pipeline.service.tracker.closed = true) :
      Effect pipeline .close (some (.closed (.error .closed)), pipeline)
  | unclosing (limitSecs : Nat) (idle : pipeline.closing = none) :
      Effect pipeline (.expire limitSecs) (none, pipeline)
  /-- It cannot happen yet. -/
  | early {event : Event} (waits : event = .tick ∨ event = .wake ∨ event = .stop ∨ event = .join) :
      Effect pipeline event (none, pipeline)

theorem effect (pipeline : Pipeline) (event : Event) :
    pipeline.Effect event (pipeline.perform event) := by
  cases event with
  | track key quantity => exact .booked key quantity
  | flush caller => exact .called caller
  | work => exact .worked
  | abandon caller => exact .abandoned caller
  | tick =>
      unfold perform
      dsimp only
      split
      · next waiting => simpa [waiting] using Effect.ticked (.inl waiting)
      · next retrying => simpa [retrying] using Effect.ticked (.inr retrying)
      · exact .early (by simp)
  | wake =>
      unfold perform
      dsimp only
      split
      · next both => exact .woken both.1 both.2
      · exact .early (by simp)
  | stop =>
      unfold perform
      dsimp only
      split
      · next both => exact .stopped both.1 both.2
      · exact .early (by simp)
  | close =>
      unfold perform
      dsimp only
      split
      · next closed => exact .refused closed
      · next opened => exact .closes (Bool.eq_false_iff.mpr opened)
  | join =>
      unfold perform
      dsimp only
      split
      · next both => exact .joined both.1 both.2
      · exact .early (by simp)
  | expire limitSecs =>
      unfold perform
      dsimp only
      split
      · next closing => exact .expired limitSecs closing
      · next idle => exact .unclosing limitSecs (Option.not_isSome_iff_eq_none.mp idle)

theorem service_close (pipeline : Pipeline) : (pipeline.perform .close).2.service =
    { pipeline.service with tracker := { pipeline.service.tracker with closed := true } } := by
  have effect := pipeline.effect .close
  generalize pipeline.perform .close = performed at effect ⊢
  cases effect with
  | closes => rfl
  | refused closed => rw [← closed]
  | early waits => simp at waits

/-- What an event can do: book an amount, let the holder of the lock take a step, or reorder. -/
theorem perform_cases (pipeline : Pipeline) (event : Event) :
    (∃ key quantity, event = .track key quantity ∧ (pipeline.perform event).2 =
      { pipeline with service := (pipeline.service.track key quantity).2 }) ∨
    event = .work ∨
    (∀ key quantity, event ≠ .track key quantity) ∧ Reorders pipeline (pipeline.perform event).2 := by
  have effect := pipeline.effect event
  generalize pipeline.perform event = performed at effect ⊢
  cases effect with
  | booked key quantity => exact .inl ⟨key, quantity, rfl, rfl⟩
  | worked => exact .inr (.inl rfl)
  | called | ticked | woken | joined =>
      exact .inr (.inr ⟨by simp, ⟨_, _, rfl⟩, .inr (.inl ⟨_, _, rfl⟩)⟩)
  | abandoned | expired => exact .inr (.inr ⟨by simp, ⟨_, _, rfl⟩, .inr (.inr ⟨_, rfl⟩)⟩)
  | stopped | closes => exact .inr (.inr ⟨by simp, ⟨_, _, rfl⟩, .inl rfl⟩)
  | refused | unclosing => exact .inr (.inr ⟨by simp, .refl pipeline⟩)
  | early waits =>
      refine .inr (.inr ⟨?_, .refl pipeline⟩)
      rintro key quantity rfl
      simp at waits

theorem reorders_abandon (pipeline : Pipeline) (flusher : Flusher) :
    Reorders pipeline (pipeline.abandon flusher) := by
  cases flusher with
  | scheduler => exact ⟨⟨_, _, rfl⟩, .inr (.inr ⟨_, rfl⟩)⟩
  | caller id => exact ⟨⟨_, _, rfl⟩, .inr (.inr ⟨_, rfl⟩)⟩
  | closing => exact ⟨⟨_, _, rfl⟩, .inr (.inr ⟨_, rfl⟩)⟩

structure Surrounds (before after : Pipeline) : Prop where
  jobs : after.jobs = before.jobs
  tracker : after.service.tracker = before.service.tracker
  contents : after.service.store.contents = before.service.store.contents

theorem Surrounds.stage {before after : Pipeline} (surrounds : Surrounds before after) :
    after.stage = before.stage := by
  simp [Pipeline.stage, surrounds.jobs]

theorem after_act (pipeline : Pipeline) {action : Action} (idle : action ≠ .flush) :
    pipeline.after (.act action) =
      { pipeline with service := (pipeline.service.perform action).2 } := by
  cases action <;> first | rfl | exact absurd rfl idle

theorem after_act_cases (pipeline : Pipeline) (action : Action) :
    (∃ key quantity, action = .track key quantity) ∨ action = .flush ∨
    (∀ key quantity, action ≠ .track key quantity) ∧
      pipeline.after (.act action) =
        { pipeline with service := (pipeline.service.perform action).2 } ∧
      pipeline.service.KeepsUsage (pipeline.service.perform action).2 := by
  by_cases books : ∃ key quantity, action = .track key quantity
  · exact .inl books
  by_cases flushes : action = .flush
  · exact .inr (.inl flushes)
  have noTrack : ∀ key quantity, action ≠ .track key quantity := by
    intro key quantity same
    exact books ⟨key, quantity, same⟩
  exact .inr (.inr ⟨noTrack, pipeline.after_act flushes,
    Service.keepsUsage_perform _ action noTrack flushes⟩)

theorem after_cases (pipeline : Pipeline) (move : Move) :
    (∃ key quantity,
      pipeline.after move = { pipeline with service := (pipeline.service.track key quantity).2 } ∧
      ∀ asked, pipeline.accepts asked move =
        if key = asked ∧ (pipeline.service.track key quantity).1.isOk then quantity else 0) ∨
    (move = .event .work ∧ ∀ asked, pipeline.accepts asked move = 0) ∨
    ((Reorders pipeline (pipeline.after move) ∨ Surrounds pipeline (pipeline.after move)) ∧
      ∀ asked, pipeline.accepts asked move = 0) := by
  cases move with
  | event event =>
      rcases pipeline.perform_cases event with ⟨key, quantity, rfl, result⟩ | rfl |
        ⟨noTrack, reorders⟩
      · exact .inl ⟨key, quantity, result, fun _ => rfl⟩
      · exact .inr (.inl ⟨rfl, fun _ => rfl⟩)
      · refine .inr (.inr ⟨.inl reorders, fun asked => ?_⟩)
        unfold accepts
        split
        · rename_i same
          exact absurd (Move.event.inj same) (noTrack _ _)
        · rename_i same
          cases same
        · rfl
  | act action =>
      rcases pipeline.after_act_cases action with ⟨key, quantity, rfl⟩ | rfl | ⟨noTrack, result, keeps⟩
      · exact .inl ⟨key, quantity, rfl, fun _ => rfl⟩
      · exact .inr (.inr ⟨.inl (.refl pipeline), fun _ => rfl⟩)
      · refine .inr (.inr ⟨.inr ?_, fun asked => ?_⟩)
        · rw [result]
          exact ⟨rfl, keeps.tracker, keeps.store.contents⟩
        · unfold accepts
          split
          · rename_i same
            cases same
          · rename_i same
            exact absurd (Move.act.inj same) (noTrack _ _)
          · rfl
  | drop flusher => exact .inr (.inr ⟨.inl (reorders_abandon pipeline flusher), fun _ => rfl⟩)
  | put row => exact .inr (.inr ⟨.inr ⟨rfl, rfl, rfl⟩, fun _ => rfl⟩)
  | switch method down => exact .inr (.inr ⟨.inr ⟨rfl, rfl, rfl⟩, fun _ => rfl⟩)
  | clock now => exact .inr (.inr ⟨.inr ⟨rfl, rfl, rfl⟩, fun _ => rfl⟩)
  | backend backend => exact .inr (.inr ⟨.inr ⟨rfl, rfl, rfl⟩, fun _ => rfl⟩)

end Pipeline

end UsageBilling
