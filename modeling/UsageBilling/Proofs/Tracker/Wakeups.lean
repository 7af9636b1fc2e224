import UsageBilling.Proofs.Tracker.Closing
/-!
Wakeups of the scheduler. A call that leaves too many keys in the live buffer stores a wakeup. Until
some flush takes its snapshot, the wakeup stays stored or has become a flush of the scheduler that is
still to take its own, whatever the scheduler was doing meanwhile.
-/
namespace UsageBilling

namespace Service

theorem track_wakeup {service : Service} (stored : service.tracker.wakeup = true) (key : UsageKey)
    (quantity : Nat) : (service.track key quantity).2.tracker.wakeup = true := by
  rcases service.track_cases key quantity with ⟨_, refused⟩ | ⟨_, _, idle⟩ | ⟨_, _, _, booked, _, _⟩
  · rwa [refused]
  · rwa [idle]
  · simp [booked, Tracker.book, stored]

theorem wakeup_of_crowded {service : Service} {key : UsageKey} {quantity : Nat}
    (opened : service.tracker.closed = false) (positive : 0 < quantity)
    (crowded : (service.track key quantity).2.tracker.threshold <
      (service.track key quantity).2.tracker.live.length) :
    (service.track key quantity).2.tracker.wakeup = true := by
  rcases service.track_cases key quantity with ⟨closed, _⟩ | ⟨_, zero, _⟩ | ⟨_, _, _, booked, _, _⟩
  · rw [opened] at closed
    cases closed
  · omega
  · rw [booked] at crowded ⊢
    simpa [Tracker.book] using .inr crowded

end Service

def Move.Books (move : Move) (key : UsageKey) (quantity : Nat) : Prop :=
  move = .event (.track key quantity) ∨ move = .act (.track key quantity)

namespace Pipeline

variable {pipeline earlier later : Pipeline}

/-- The scheduler waits for a tick, a wakeup or its end, and no wakeup is stored for it. -/
def Parked (pipeline : Pipeline) : Prop :=
  pipeline.scheduler = .waiting ∧ pipeline.service.tracker.wakeup = false

/-- The scheduler is going to have a snapshot taken without another call asking for it. -/
inductive Alert (pipeline : Pipeline) : Prop
  /-- It is woken, within a flush or waiting to retry one, and a wakeup is stored. -/
  | stored (runs : pipeline.scheduler ≠ .stopped)
      (wakeup : pipeline.service.tracker.wakeup = true) : Alert pipeline
  /-- It has begun a flush that has not taken its snapshot. -/
  | begun (flushing : pipeline.scheduler = .flushing) (job : Job) (member : job ∈ pipeline.jobs)
      (own : job.flusher = .scheduler) (queued : job.stage = .queued) : Alert pipeline

theorem Alert.not_parked (alert : pipeline.Alert) : ¬pipeline.Parked := by
  rintro ⟨waiting, none⟩
  cases alert with
  | stored runs wakeup => simp [none] at wakeup
  | begun flushing job member own queued => simp [waiting] at flushing

theorem Alert.mono (alert : earlier.Alert) (scheduler : later.scheduler = earlier.scheduler)
    (wakeup : earlier.service.tracker.wakeup = true → later.service.tracker.wakeup = true)
    (jobs : ∀ job ∈ earlier.jobs, job.flusher = .scheduler → job ∈ later.jobs) : later.Alert := by
  cases alert with
  | stored runs present => exact .stored (scheduler ▸ runs) (wakeup present)
  | begun flushing job member own queued =>
      exact .begun (scheduler.trans flushing) job (jobs job member own) own queued

def ownFlushes (pipeline : Pipeline) : Nat :=
  pipeline.jobs.countP fun job => job.flusher = .scheduler

/-- The scheduler begins one flush at a time and waits for its end, and it stops only when the tracker
is closed. -/
structure Manned (pipeline : Pipeline) : Prop where
  single : pipeline.ownFlushes = if pipeline.scheduler = .flushing then 1 else 0
  stopped : pipeline.scheduler = .stopped → pipeline.service.tracker.closed = true

theorem Opened.manned (opened : pipeline.Opened) (waiting : pipeline.scheduler = .waiting) :
    pipeline.Manned where
  single := by simp [ownFlushes, opened.jobs, waiting]
  stopped stopped := by simp [waiting] at stopped

theorem Manned.mono (manned : earlier.Manned) (scheduler : later.scheduler = earlier.scheduler)
    (jobs : later.ownFlushes = earlier.ownFlushes)
    (closed : earlier.service.tracker.closed = true → later.service.tracker.closed = true) :
    later.Manned where
  single := by rw [jobs, manned.single, scheduler]
  stopped stopped := closed (manned.stopped (scheduler ▸ stopped))

theorem Manned.idle (manned : pipeline.Manned) (waits : pipeline.scheduler ≠ .flushing) :
    pipeline.ownFlushes = 0 := by
  rw [manned.single, if_neg waits]

theorem Manned.own_first (manned : pipeline.Manned) {job : Job} {rest : List Job}
    (queue : pipeline.jobs = job :: rest) (own : job.flusher = .scheduler) :
    pipeline.scheduler = .flushing ∧ ∀ other ∈ rest, other.flusher ≠ .scheduler := by
  have single := manned.single
  rw [ownFlushes, queue, List.countP_cons_of_pos (by simpa using own)] at single
  split at single
  · rename_i flushing
    have none : rest.countP (fun job => job.flusher = .scheduler) = 0 := by omega
    refine ⟨flushing, fun other member => ?_⟩
    simpa using List.countP_eq_zero.mp none other member
  · omega

theorem mem_without {flusher : Flusher} (other : flusher ≠ .scheduler) {job : Job}
    (member : job ∈ pipeline.jobs) (own : job.flusher = .scheduler) :
    job ∈ (pipeline.without flusher).jobs := by
  refine List.mem_filter.mpr ⟨member, ?_⟩
  simpa [own] using other.symm

theorem ownFlushes_without {flusher : Flusher} (other : flusher ≠ .scheduler) :
    (pipeline.without flusher).ownFlushes = pipeline.ownFlushes := by
  unfold ownFlushes without
  rw [List.countP_filter]
  apply List.countP_congr
  intro job _
  simp only [Bool.and_eq_true, decide_eq_true_eq]
  exact ⟨And.left, fun own => ⟨own, own ▸ other.symm⟩⟩

theorem ownFlushes_enqueue (flusher : Flusher) (trigger : Trigger) :
    (pipeline.enqueue flusher trigger).ownFlushes =
      pipeline.ownFlushes + if flusher = .scheduler then 1 else 0 := by
  simp [ownFlushes, enqueue, List.countP_append, List.countP_cons]

theorem manned_enqueue (flushing : pipeline.scheduler = .flushing) (idle : pipeline.ownFlushes = 0)
    (trigger : Trigger) : (pipeline.enqueue .scheduler trigger).Manned where
  single := by rw [ownFlushes_enqueue, idle]; simp [enqueue, flushing]
  stopped stopped := absurd (flushing.symm.trans stopped) (by simp)

theorem work_scheduler {job : Job} {rest : List Job} (queue : pipeline.jobs = job :: rest) :
    (∃ next, (pipeline.perform .work).2.jobs = { job with stage := next } :: rest ∧
      (pipeline.perform .work).2.scheduler = pipeline.scheduler) ∨
    (job.flusher ≠ .scheduler ∧ (pipeline.perform .work).2.jobs = rest ∧
      (pipeline.perform .work).2.scheduler = pipeline.scheduler) ∨
    (job.flusher = .scheduler ∧ (pipeline.perform .work).2.jobs = rest ∧
      ((pipeline.perform .work).2.scheduler = .waiting ∨
        (pipeline.perform .work).2.scheduler = .retrying)) := by
  cases step : (pipeline.service.stepFlush job.trigger job.stage).1 with
  | running next =>
      rw [work_of_running queue step]
      exact .inl ⟨next, rfl, rfl⟩
  | finished result =>
      rw [work_of_finished queue step, deliver_jobs]
      cases flusher : job.flusher with
      | scheduler =>
          refine .inr (.inr ⟨rfl, rfl, ?_⟩)
          unfold deliver
          dsimp only
          split <;> simp
      | caller id => exact .inr (.inl ⟨by simp, rfl, rfl⟩)
      | closing => exact .inr (.inl ⟨by simp, rfl, rfl⟩)

theorem wakeup_work (pipeline : Pipeline) :
    (pipeline.perform .work).2.service.tracker.wakeup = pipeline.service.tracker.wakeup := by
  rcases pipeline.work_cases with ⟨_, idle⟩ | ⟨job, rest, _, service, _⟩
  · rw [idle]
  · rw [service, (Service.sameButUsage_stepFlush _ _ _).wakeup]

theorem Manned.work (manned : pipeline.Manned) : (pipeline.perform .work).2.Manned := by
  have closed : pipeline.service.tracker.closed = true →
      (pipeline.perform .work).2.service.tracker.closed = true :=
    fun before => (pipeline.closed_perform .work).mpr (.inl before)
  cases queue : pipeline.jobs with
  | nil => simpa [perform, queue] using manned
  | cons job rest =>
      rcases work_scheduler queue with ⟨next, jobs, same⟩ | ⟨other, jobs, same⟩ | ⟨own, jobs, ended⟩
      · refine manned.mono same ?_ closed
        simp [ownFlushes, jobs, queue, List.countP_cons]
      · refine manned.mono same ?_ closed
        simp [ownFlushes, jobs, queue, other]
      · obtain ⟨flushing, alone⟩ := manned.own_first queue own
        have none : (pipeline.perform .work).2.ownFlushes = 0 := by
          simpa [ownFlushes, jobs] using alone
        rcases ended with waits | retries
        · exact ⟨by simp [none, waits], by simp [waits]⟩
        · exact ⟨by simp [none, retries], by simp [retries]⟩

theorem Manned.perform (manned : pipeline.Manned) (event : Event) :
    (pipeline.perform event).2.Manned := by
  have closed : pipeline.service.tracker.closed = true →
      (pipeline.perform event).2.service.tracker.closed = true :=
    fun before => (pipeline.closed_perform event).mpr (.inl before)
  have pausing : pipeline.scheduler = .waiting ∨ pipeline.scheduler = .retrying →
      pipeline.ownFlushes = 0 := by
    intro waits
    apply manned.idle
    rcases waits with waiting | retrying
    · simp [waiting]
    · simp [retrying]
  have effect := pipeline.effect event
  generalize pipeline.perform event = performed at effect closed ⊢
  cases effect with
  | booked => exact manned.mono rfl rfl closed
  | worked => exact manned.work
  | called | joined => exact manned.mono rfl (ownFlushes_enqueue _ _) closed
  | abandoned | expired => exact manned.mono rfl (ownFlushes_without (by simp)) closed
  | ticked waits =>
      apply manned_enqueue rfl
      exact pausing waits
  | woken waits =>
      apply manned_enqueue rfl
      exact pausing (.inl waits)
  | stopped ended waits => exact ⟨pausing waits, fun _ => ended⟩
  | closes => exact manned.mono rfl rfl closed
  | refused | unclosing | early => exact manned

theorem Manned.after (manned : pipeline.Manned) {move : Move} (kept : move ≠ .drop .scheduler) :
    (pipeline.after move).Manned := by
  have closed : pipeline.service.tracker.closed = true →
      (pipeline.after move).service.tracker.closed = true :=
    fun before => (pipeline.closed_after move).mpr (.inl before)
  cases move with
  | event event => exact manned.perform event
  | act action => cases action <;> exact manned.mono rfl rfl closed
  | drop flusher =>
      cases flusher with
      | scheduler => exact absurd rfl kept
      | caller id => exact manned.mono rfl (ownFlushes_without (by simp)) closed
      | closing => exact manned.mono rfl (ownFlushes_without (by simp)) closed
  | put row => exact manned.mono rfl rfl closed
  | switch method down => exact manned.mono rfl rfl closed
  | clock now => exact manned.mono rfl rfl closed
  | backend backend => exact manned.mono rfl rfl closed

theorem Manned.afterAll (manned : pipeline.Manned) {moves : List Move}
    (kept : ∀ move ∈ moves, move ≠ .drop .scheduler) : (pipeline.afterAll moves).Manned :=
  afterAll_induction manned moves fun _ move member holds => holds.after (kept move member)

/-- With this move some flush takes its snapshot of the live buffer, or a closing begins. -/
def relieves (pipeline : Pipeline) : Move → Bool
  | .event .work => pipeline.jobs.head?.any fun job => job.stage = .queued
  | .event .close => true
  | _ => false

def unrelieved (pipeline : Pipeline) : List Move → Bool
  | [] => true
  | move :: moves => !pipeline.relieves move && (pipeline.after move).unrelieved moves

/-- A step of a flush that has taken its snapshot keeps the scheduler alert. If its own flush ends with
it, the wakeup was stored while that flush was under way. -/
theorem Alert.work (alert : pipeline.Alert) (manned : pipeline.Manned)
    (begun : pipeline.relieves (.event .work) = false) : (pipeline.perform .work).2.Alert := by
  cases queue : pipeline.jobs with
  | nil => simpa [perform, queue] using alert
  | cons job rest =>
      have late : job.stage ≠ .queued := by simpa [relieves, queue] using begun
      have behind : ∀ other ∈ pipeline.jobs, other.stage = .queued → other ∈ rest := by
        intro other member queued
        rw [queue] at member
        rcases List.mem_cons.mp member with rfl | later
        · exact absurd queued late
        · exact later
      cases alert with
      | stored runs wakeup =>
          refine .stored ?_ (pipeline.wakeup_work.trans wakeup)
          rcases work_scheduler queue with ⟨_, _, same⟩ | ⟨_, _, same⟩ | ⟨_, _, waits | retries⟩
          · rwa [same]
          · rwa [same]
          · simp [waits]
          · simp [retries]
      | begun flushing other member own queued =>
          have later := behind other member queued
          rcases work_scheduler queue with ⟨next, jobs, same⟩ | ⟨_, jobs, same⟩ | ⟨first, _, _⟩
          · exact .begun (same.trans flushing) other (by simp [jobs, later]) own queued
          · exact .begun (same.trans flushing) other (by simp [jobs, later]) own queued
          -- The scheduler has no second flush behind the one that ends.
          · exact absurd own ((manned.own_first queue first).2 other later)

theorem Alert.perform (alert : pipeline.Alert) (manned : pipeline.Manned) {event : Event}
    (opened : pipeline.service.tracker.closed = false)
    (goesOn : pipeline.relieves (.event event) = false) : (pipeline.perform event).2.Alert := by
  have joins : ∀ (flusher : Flusher) (trigger : Trigger), ∀ job ∈ pipeline.jobs,
      job.flusher = .scheduler → job ∈ (pipeline.enqueue flusher trigger).jobs :=
    fun _ _ job member _ => List.mem_append_left _ member
  have begins : ∀ (before : Pipeline) (trigger : Trigger), before.scheduler = .flushing →
      (before.enqueue .scheduler trigger).Alert := by
    intro before trigger flushing
    exact .begun flushing { flusher := .scheduler, trigger } (by simp [enqueue]) rfl rfl
  have effect := pipeline.effect event
  generalize pipeline.perform event = performed at effect ⊢
  cases effect with
  | booked key quantity =>
      exact alert.mono rfl (Service.track_wakeup · key quantity) fun _ member _ => member
  | worked => exact alert.work manned goesOn
  | called | joined => exact alert.mono rfl id (joins _ _)
  | abandoned | expired => exact alert.mono rfl id fun _ => mem_without (by simp)
  | ticked | woken => exact begins _ _ rfl
  | stopped ended => simp [opened] at ended
  | closes => simp [relieves] at goesOn
  | refused | unclosing | early => exact alert

theorem Alert.after (alert : pipeline.Alert) (manned : pipeline.Manned) {move : Move}
    (opened : pipeline.service.tracker.closed = false) (goesOn : pipeline.relieves move = false)
    (kept : move ≠ .drop .scheduler) : (pipeline.after move).Alert := by
  cases move with
  | event event => exact alert.perform manned opened goesOn
  | act action =>
      rcases pipeline.after_act_cases action with ⟨key, quantity, rfl⟩ | rfl | ⟨_, result, keeps⟩
      · exact alert.mono rfl (Service.track_wakeup · key quantity) fun _ member _ => member
      · exact alert
      · rw [result]
        exact alert.mono rfl (fun stored => by rwa [keeps.tracker]) fun _ member _ => member
  | drop flusher =>
      cases flusher with
      | scheduler => exact absurd rfl kept
      | caller id => exact alert.mono rfl (fun stored => stored) fun _ => mem_without (by simp)
      | closing => exact alert.mono rfl (fun stored => stored) fun _ => mem_without (by simp)
  | put row => exact alert.mono rfl id fun _ member _ => member
  | switch method down => exact alert.mono rfl id fun _ member _ => member
  | clock now => exact alert.mono rfl id fun _ member _ => member
  | backend backend => exact alert.mono rfl id fun _ member _ => member

theorem Alert.afterAll (alert : pipeline.Alert) (manned : pipeline.Manned) {moves : List Move}
    (opened : pipeline.service.tracker.closed = false)
    (kept : ∀ move ∈ moves, move ≠ .drop .scheduler) (goesOn : pipeline.unrelieved moves = true) :
    (pipeline.afterAll moves).Alert := by
  induction moves generalizing pipeline with
  | nil => exact alert
  | cons move moves ih =>
      simp only [unrelieved, Bool.and_eq_true, Bool.not_eq_true'] at goesOn
      obtain ⟨here, later⟩ := goesOn
      have stays := kept move List.mem_cons_self
      have unclosed : move ≠ .event .close := by
        rintro rfl
        simp [relieves] at here
      have next : (pipeline.after move).service.tracker.closed = false := by
        simpa [unclosed, opened] using pipeline.closed_after move
      exact ih (alert.after manned opened here stays) (manned.after stays) next
        (fun other member => kept other (List.mem_cons_of_mem move member)) later

theorem Manned.alert_of_crowded (manned : pipeline.Manned) {move : Move} {key : UsageKey}
    {quantity : Nat} (books : move.Books key quantity) (positive : 0 < quantity)
    (unclosed : pipeline.service.tracker.closed = false)
    (crowded : (pipeline.after move).service.tracker.threshold <
      (pipeline.after move).service.tracker.live.length) : (pipeline.after move).Alert := by
  have booked : pipeline.after move =
      { pipeline with service := (pipeline.service.track key quantity).2 } := by
    rcases books with rfl | rfl <;> rfl
  rw [booked] at crowded ⊢
  refine .stored (fun stopped => ?_) (Service.wakeup_of_crowded unclosed positive crowded)
  rw [manned.stopped stopped] at unclosed
  cases unclosed

/-- No wakeup is lost. Once a call has booked an amount in an open tracker and left more keys in the
live buffer than the threshold, the scheduler is alert, and never parked without a wakeup, until some
flush takes a snapshot or a closing begins. Flushes may succeed, fail and be dropped meanwhile, ticks
may come and other calls may go on. -/
theorem alert_until_snapshot {start : Pipeline} (opened : start.Opened)
    (waiting : start.scheduler = .waiting) (before during : List Move)
    (kept : ∀ move ∈ before ++ during, move ≠ .drop .scheduler) {move : Move} {key : UsageKey}
    {quantity : Nat} (books : move.Books key quantity) (positive : 0 < quantity)
    (unclosed : (start.afterAll before).service.tracker.closed = false)
    (crowded : ((start.afterAll before).after move).service.tracker.threshold <
      ((start.afterAll before).after move).service.tracker.live.length)
    (goesOn : ((start.afterAll before).after move).unrelieved during = true) :
    (start.afterAll (before ++ move :: during)).Alert ∧
      ¬(start.afterAll (before ++ move :: during)).Parked := by
  have manned : (start.afterAll before).Manned :=
    (opened.manned waiting).afterAll fun other member => kept other (List.mem_append_left _ member)
  have stays : move ≠ .drop .scheduler := by
    rcases books with rfl | rfl <;> simp
  have next : ((start.afterAll before).after move).service.tracker.closed = false := by
    have closes := (start.afterAll before).closed_after move
    rcases books with rfl | rfl <;> simpa [unclosed] using closes
  rw [afterAll_append, afterAll_cons]
  have alert := (manned.alert_of_crowded books positive unclosed crowded).afterAll
    (manned.after stays) next (fun other member => kept other (List.mem_append_right _ member)) goesOn
  exact ⟨alert, alert.not_parked⟩

def narrow : Pipeline := { service := { clock := ⟨1700000000, 0⟩, tracker := { threshold := 1 } } }

theorem narrow_opened : narrow.Opened := ⟨rfl, rfl, rfl, rfl, rfl⟩

def keyOf (tenant : BitVec 128) : UsageKey := ⟨⟨tenant⟩, .testRuns⟩

def overtaking : List Move :=
  [.event (.track (keyOf 1) 1), .event .tick, .event .work, .event (.track (keyOf 2) 1)]

def overtaken : List Move :=
  [.event .work, .event (.flush 7), .event .work, .drop (.caller 7), .event .work]

/-- The scheduler goes back to waiting, with nothing under way, and the wakeup is there. -/
theorem alert_until_snapshot_overtaken :
    let reached := narrow.afterAll (overtaking ++ .event (.track (keyOf 3) 1) :: overtaken)
    reached.scheduler = .waiting ∧ reached.jobs = [] ∧ reached.service.tracker.live.length = 2 ∧
      reached.Alert := by
  refine ⟨rfl, rfl, rfl, ?_⟩
  have kept : ∀ move ∈ overtaking ++ overtaken, move ≠ .drop .scheduler := by
    simp [overtaking, overtaken]
  exact (alert_until_snapshot narrow_opened rfl overtaking overtaken kept (.inl rfl)
    (show 0 < 1 by decide) rfl (by decide +kernel) rfl).1

def refilled : List Move :=
  [.event (.track (keyOf 1) 1), .event (.flush 7), .event .work, .event (.track (keyOf 2) 1),
    .switch .insertUsage true, .event .work, .event .work, .event .work]

/-- An amount of zero is accepted, but it books nothing and asks for no flush. So it may leave the
buffer too full with the scheduler parked. -/
theorem parked_after_zero :
    ¬ ∀ (start : Pipeline) (before : List Move) (key : UsageKey) (quantity : Nat),
      start.Opened → start.scheduler = .waiting → (∀ move ∈ before, move ≠ .drop .scheduler) →
      (start.afterAll before).service.tracker.closed = false →
      ((start.afterAll before).service.track key quantity).1 = .ok () →
      (start.afterAll before).service.tracker.threshold <
        ((start.afterAll before).after (.event (.track key quantity))).service.tracker.live.length →
      ¬((start.afterAll before).after (.event (.track key quantity))).Parked := by
  intro never
  have parked := never narrow refilled (keyOf 1) 0 narrow_opened rfl (by simp [refilled])
    rfl rfl (by decide +kernel)
  exact parked ⟨rfl, rfl⟩

end Pipeline

end UsageBilling
