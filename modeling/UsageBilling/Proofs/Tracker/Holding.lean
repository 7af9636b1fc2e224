import UsageBilling.Proofs.Tracker.Stamps
/-!
A flush that has taken its snapshot and holds the lock. Until it ends or is dropped its slot stays as it
is, no batch is written, and what is accepted goes into the live buffer. It looks up the period of each
tenant once, at some moment on the way, for the time at which it took its snapshot.
-/
namespace UsageBilling

open Quantity

/-- How the holder of the lock moves on: not at all, or it stamps one more amount, or it has stamped all
of them. -/
inductive Flush.Advances (service : Service) : Flush → Flush → Prop
  | waits (stage : Flush) : Advances service stage stage
  | stamps (now : Instant) (records : List NewUsage) (entry : UsageKey × Int) (rest : Buffer) :
      Advances service (.stamping now records (entry :: rest))
        (.stamping now (records ++ [service.stamp now records entry]) rest)
  | completes (now : Instant) (records : List NewUsage) :
      Advances service (.stamping now records []) (.writing records)

/-- No row is written, the slot stays as it is, and what comes in goes into the live buffer. -/
structure Service.Collects (before after : Service) (brings : UsageKey → Nat) : Prop where
  contents : after.store.contents = before.store.contents
  inflight : after.tracker.inflight = before.tracker.inflight
  live : ∀ key, after.tracker.live.get key = min (before.tracker.live.get key + brings key) greatest

namespace Service

variable {service before between after : Service} {stage : Flush}

theorem collects_of_tracker (form : service.tracker.live.WellFormed)
    (contents : after.store.contents = service.store.contents)
    (inflight : after.tracker.inflight = service.tracker.inflight)
    (live : after.tracker.live = service.tracker.live) : Collects service after fun _ => 0 := by
  refine ⟨contents, inflight, fun key => ?_⟩
  have bounds := Buffer.get_bounds form key
  rw [live]
  omega

theorem Collects.trans {first second : UsageKey → Nat} (earlier : Collects before between first)
    (later : Collects between after second) :
    Collects before after fun key => first key + second key := by
  refine ⟨later.contents.trans earlier.contents, later.inflight.trans earlier.inflight, fun key => ?_⟩
  rw [later.live, earlier.live]
  omega

theorem track_collects (buffered : service.Buffered stage) (key : UsageKey) (quantity : Nat) :
    Collects service (service.track key quantity).2 fun asked =>
      if key = asked ∧ (service.track key quantity).1.isOk then quantity else 0 := by
  have idle : Collects service service fun _ => 0 := collects_of_tracker buffered.live rfl rfl rfl
  rcases service.track_cases key quantity with ⟨_, closed⟩ | ⟨_, zero, idles⟩ |
    ⟨_, positive, accepted, tracker, store, _⟩
  · rw [closed]
    simpa [Except.isOk, Except.toBool] using idle
  · rw [idles]
    simpa [zero] using idle
  · have amount := ofCount_isAmount positive
    refine ⟨by rw [store], by rw [tracker]; rfl, fun asked => ?_⟩
    have bounds := Buffer.get_bounds buffered.live key
    have others := Buffer.get_bounds buffered.live asked
    rw [accepted, tracker, Tracker.book, Buffer.get_add]
    by_cases same : key = asked
    · subst same
      rw [if_pos rfl, add_of_nonneg bounds.1 (by have := amount.1; omega)]
      simp only [true_and, Except.isOk, Except.toBool, if_true, ofCount]
      omega
    · rw [if_neg same, if_neg fun both => same both.1]
      omega

end Service

namespace Pipeline

variable {pipeline : Pipeline} {moves : List Move}

/-- At every moment of the moves the flush that holds the lock has taken its snapshot. It is the same one
all along, since between two of them the lock is free. -/
def Holds (pipeline : Pipeline) : List Move → Prop
  | [] => pipeline.stage ≠ .queued
  | move :: moves => pipeline.stage ≠ .queued ∧ (pipeline.after move).Holds moves

instance decidableHolds (pipeline : Pipeline) : (moves : List Move) → Decidable (pipeline.Holds moves)
  | [] => inferInstanceAs (Decidable (_ ≠ _))
  | move :: moves =>
    have := decidableHolds (pipeline.after move) moves
    inferInstanceAs (Decidable (_ ∧ _))

theorem Holds.start (holds : pipeline.Holds moves) : pipeline.stage ≠ .queued := by
  cases moves with
  | nil => exact holds
  | cons move moves => exact holds.1

theorem Holds.last (holds : pipeline.Holds moves) : (pipeline.afterAll moves).stage ≠ .queued := by
  induction moves generalizing pipeline with
  | nil => exact holds
  | cons move moves ih => exact ih holds.2

theorem holds_concat {move : Move} (holds : pipeline.Holds moves)
    (still : (pipeline.afterAll (moves ++ [move])).stage ≠ .queued) :
    pipeline.Holds (moves ++ [move]) := by
  induction moves generalizing pipeline with
  | nil => exact ⟨holds, still⟩
  | cons first moves ih => exact ⟨holds.1, ih holds.2 still⟩

theorem work_advances (buffered : pipeline.Buffered) (held : pipeline.stage ≠ .queued)
    (still : (pipeline.perform .work).2.stage ≠ .queued) :
    (pipeline.perform .work).2.service = pipeline.service ∧
      pipeline.stage.Advances pipeline.service (pipeline.perform .work).2.stage := by
  rcases pipeline.work_cases with ⟨empty, _⟩ | ⟨job, rest, jobs, service, running⟩
  · exact absurd (stage_of_nil empty) held
  · have own := stage_of_cons jobs
    rcases running with ⟨next, step, queue⟩ | ⟨result, step, queue⟩
    · rw [service, stage_of_cons queue, own]
      rw [own] at held
      cases stage : job.stage with
      | queued => exact absurd stage held
      | writing records =>
          rw [stage] at step
          cases step
      | stamping now records rest =>
          rw [stage] at step
          cases rest with
          | nil =>
              obtain rfl := FlushStep.running.inj step
              exact ⟨rfl, .completes now records⟩
          | cons entry rest =>
              obtain rfl := FlushStep.running.inj step
              exact ⟨rfl, .stamps now records entry rest⟩
    · exact absurd (buffered.exclusive.stage_of_done jobs queue) still

theorem after_holds (buffered : pipeline.Buffered) (move : Move) (held : pipeline.stage ≠ .queued)
    (still : (pipeline.after move).stage ≠ .queued) :
    pipeline.service.Collects (pipeline.after move).service (fun key => pipeline.accepts key move) ∧
      pipeline.stage.Advances pipeline.service (pipeline.after move).stage := by
  have live := buffered.service.live
  rcases pipeline.after_cases move with ⟨key, quantity, result, brings⟩ | ⟨rfl, brings⟩ |
    ⟨reorders | surrounds, brings⟩
  · rw [funext brings, result]
    exact ⟨Service.track_collects buffered.service key quantity, .waits _⟩
  · obtain ⟨same, advances⟩ := work_advances buffered held still
    rw [funext brings]
    refine ⟨?_, advances⟩
    change pipeline.service.Collects (pipeline.perform .work).2.service _
    rw [same]
    exact Service.collects_of_tracker live rfl rfl rfl
  · rw [funext brings]
    obtain ⟨wakeup, closed, service⟩ := reorders.service
    rcases reorders.stage buffered.exclusive with kept | queued
    · rw [kept, service]
      exact ⟨Service.collects_of_tracker live rfl rfl rfl, .waits _⟩
    · exact absurd queued still
  · rw [funext brings, surrounds.stage]
    exact ⟨Service.collects_of_tracker live surrounds.contents (by rw [surrounds.tracker])
      (by rw [surrounds.tracker]), .waits _⟩

theorem Holds.collects (holds : pipeline.Holds moves) (buffered : pipeline.Buffered) :
    pipeline.service.Collects (pipeline.afterAll moves).service
      fun key => pipeline.accepted key moves := by
  induction moves generalizing pipeline with
  | nil => exact Service.collects_of_tracker buffered.service.live rfl rfl rfl
  | cons move moves ih =>
      have first := (after_holds buffered move holds.1 holds.2.start).1
      exact first.trans (ih holds.2 (after_buffered buffered move).1)

end Pipeline

/-- All records of a tenant have one period, and that was `found` for the tenant. -/
structure Timely (found : Uuid → Period → Prop) (records : List NewUsage) : Prop where
  found : ∀ record ∈ records, found record.tenant record.period
  uniform : ∀ record ∈ records, ∀ other ∈ records, record.tenant = other.tenant →
    record.period = other.period

def Flush.Dated (moment : Instant) (found : Uuid → Period → Prop) : Flush → Prop
  | .queued => True
  | .stamping now records _ => now = moment ∧ Timely found records
  | .writing records => Timely found records

section

variable {found : Uuid → Period → Prop} {service : Service} {moment : Instant} {records : List NewUsage}

theorem timely_nil : Timely found [] := ⟨by simp, by simp⟩

theorem Timely.stamp (timely : Timely found records) (entry : UsageKey × Int)
    (finds : ∀ tenant, found tenant (service.periodAt tenant moment)) :
    Timely found (records ++ [service.stamp moment records entry]) := by
  let last := service.stamp moment records entry
  have same : ∀ record ∈ records, record.tenant = last.tenant → last.period = record.period := by
    intro record member own
    cases known : records.find? fun record => record.tenant = entry.1.tenant with
    | none =>
        have apart : record.tenant ≠ entry.1.tenant := by
          simpa using List.find?_eq_none.mp known record member
        exact absurd own apart
    | some first =>
        have theirs : first.tenant = entry.1.tenant := by simpa using List.find?_some known
        have equal := timely.uniform first (List.mem_of_find?_eq_some known) record member
          (theirs.trans own.symm)
        simpa [last, Service.stamp, known] using equal
  have reached : found last.tenant last.period := by
    cases known : records.find? fun record => record.tenant = entry.1.tenant with
    | none => simpa [last, Service.stamp, known] using finds entry.1.tenant
    | some first =>
        have theirs : first.tenant = entry.1.tenant := by simpa using List.find?_some known
        have member := List.mem_of_find?_eq_some known
        rw [same first member theirs, show last.tenant = first.tenant from theirs.symm]
        exact timely.found first member
  constructor
  · exact List.forall_mem_append.mpr ⟨timely.found, List.forall_mem_singleton.mpr reached⟩
  · intro record member other present equal
    rcases List.mem_append.mp member with earlier | final
    · rcases List.mem_append.mp present with also | final
      · exact timely.uniform record earlier other also equal
      · rw [List.mem_singleton.mp final] at equal ⊢
        exact (same record earlier equal).symm
    · rw [List.mem_singleton.mp final] at equal ⊢
      rcases List.mem_append.mp present with also | final
      · exact same other also equal.symm
      · rw [List.mem_singleton.mp final]

theorem Timely.periods (timely : Timely found records) (some : ∀ tenant, ∃ period, found tenant period) :
    ∃ periodOf : Uuid → Period, (∀ tenant, found tenant (periodOf tenant)) ∧
      ∀ record ∈ records, record.period = periodOf record.tenant := by
  have each : ∀ tenant, ∃ period, found tenant period ∧
      ∀ record ∈ records, record.tenant = tenant → record.period = period := by
    intro tenant
    by_cases present : ∃ record ∈ records, record.tenant = tenant
    · obtain ⟨record, member, rfl⟩ := present
      exact ⟨record.period, timely.found record member, fun other also equal =>
        timely.uniform other also record member equal⟩
    · obtain ⟨period, reached⟩ := some tenant
      exact ⟨period, reached, fun record member own => absurd ⟨record, member, own⟩ present⟩
  choose periodOf reached same using each
  exact ⟨periodOf, reached, fun record member => same record.tenant record member rfl⟩

theorem Flush.Advances.dated {stage next : Flush} (advances : stage.Advances service next)
    (dated : stage.Dated moment found) (finds : ∀ tenant, found tenant (service.periodAt tenant moment)) :
    next.Dated moment found := by
  cases advances with
  | waits => exact dated
  | stamps now records entry rest =>
      obtain ⟨rfl, timely⟩ := dated
      exact ⟨rfl, timely.stamp entry finds⟩
  | completes now records => exact dated.2

end

theorem Pipeline.Holds.dated {pipeline : Pipeline} {moves : List Move} (holds : pipeline.Holds moves)
    (buffered : pipeline.Buffered) {moment : Instant} {found : Uuid → Period → Prop}
    (dated : pipeline.stage.Dated moment found)
    (finds : ∀ earlier later, moves = earlier ++ later → ∀ tenant,
      found tenant ((pipeline.afterAll earlier).service.periodAt tenant moment)) :
    (pipeline.afterAll moves).stage.Dated moment found := by
  induction moves generalizing pipeline with
  | nil => exact dated
  | cons move moves ih =>
      have advances := (after_holds buffered move holds.1 holds.2.start).2
      apply ih holds.2 (after_buffered buffered move).1 (advances.dated dated (finds [] _ rfl))
      rintro earlier later rfl
      exact finds (move :: earlier) later rfl

end UsageBilling
