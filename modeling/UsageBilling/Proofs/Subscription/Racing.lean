import UsageBilling.Proofs.Subscription.Enrollment
import UsageBilling.Proofs.Tracker.Traffic
/-!
Several calls that make the same tenant a customer of the provider. Between the read and the write of
one call the others go on, so its write may replace the link that another one has made. That happens
exactly when a call that has seen the row without a customer writes after another one has.
-/
namespace UsageBilling

namespace Traffic

variable {β : Type}

/-- The call that a step lets carry out an action, and the action. A flush is none, since it is waited
for. -/
def performs (traffic : Traffic β) : Step β → Option (Nat × Performed)
  | .proceed call =>
    match traffic.calls call with
    | some (.ready (.step .flush _)) => none
    | some (.ready (.step action _)) =>
      some (call, ⟨action, (traffic.pipeline.service.perform action).1⟩)
    | _ => none
  | _ => none

def history : Traffic β → List (Step β) → History
  | _, [] => []
  | traffic, step :: steps => (traffic.performs step).toList ++ (traffic.step step).history steps

theorem history_append (traffic : Traffic β) (first second : List (Step β)) :
    traffic.history (first ++ second) = traffic.history first ++ (traffic.run first).history second := by
  induction first generalizing traffic with
  | nil => rfl
  | cons step steps ih =>
      rw [List.cons_append, history, history, ih, List.append_assoc]
      rfl

theorem history_split {traffic : Traffic β} {steps : List (Step β)} {first second : History}
    (split : traffic.history steps = first ++ second) : ∃ earlier later, steps = earlier ++ later ∧
      traffic.history earlier = first ∧ (traffic.run earlier).history later = second := by
  induction steps generalizing traffic first with
  | nil =>
      obtain ⟨rfl, rfl⟩ := List.append_eq_nil_iff.mp split.symm
      exact ⟨[], [], rfl, rfl, rfl⟩
  | cons step steps ih =>
      rw [history] at split
      cases first with
      | nil => exact ⟨[], step :: steps, rfl, rfl, by rw [history]; exact split⟩
      | cons entry rest =>
          cases performed : traffic.performs step with
          | none =>
              rw [performed] at split
              obtain ⟨earlier, later, rfl, past, left⟩ := ih split
              exact ⟨step :: earlier, later, rfl, by rw [history, performed]; exact past, left⟩
          | some carried =>
              rw [performed, Option.toList_some, List.singleton_append, List.cons_append] at split
              obtain ⟨rfl, remains⟩ := List.cons.inj split
              obtain ⟨earlier, later, rfl, past, left⟩ := ih remains
              refine ⟨step :: earlier, later, rfl, ?_, left⟩
              rw [history, performed, past]
              rfl

/-- The steps of calls that enrol the tenant, while the clock, the provider and the outages of the store
change. -/
inductive Enrols (tenant : Uuid) : Step (Except Fault Subscription) → Prop
  | begin (email name : String) :
      Enrols tenant (.begin (Lifecycle.createCustomer tenant email name).outcome)
  | proceed (call : Nat) : Enrols tenant (.proceed call)
  | cancel (call : Nat) : Enrols tenant (.cancel call)
  | clock (now : Instant) : Enrols tenant (.around (.clock now))
  | switch (method : Store.Method) (down : Bool) : Enrols tenant (.around (.switch method down))
  | backend (backend : Provider.Backend) : Enrols tenant (.around (.backend backend))

def customerOf (traffic : Traffic β) (tenant : Uuid) : Option String :=
  traffic.pipeline.service.store.customerOf tenant

/-- Once the row names a customer it names no other one later, and each call that succeeds returns a row
that names the same customer. -/
structure CreatedOnce (tenant : Uuid) (start : Traffic (Except Fault Subscription))
    (steps : List (Step (Except Fault Subscription))) : Prop where
  kept : ∀ earlier middle later, steps = earlier ++ middle ++ later → ∀ customerId,
    (start.run earlier).customerOf tenant = some customerId →
      (start.run (earlier ++ middle)).customerOf tenant = some customerId
  returned : ∀ call row, (call, .ok row) ∈ (start.run steps).returned →
    row.customerId.isSome ∧ row.customerId = (start.run steps).customerOf tenant

/-- What holds of the calls, given what they have carried out so far. -/
structure Enrolling (tenant : Uuid) (initial : Option String) (past : History)
    (traffic : Traffic (Except Fault Subscription)) : Prop where
  linked : traffic.customerOf tenant = past.linkedTo initial
  accounted : past.Accounted tenant initial
  begun : ∀ entry ∈ past, entry.1 < traffic.begun
  calls : ∀ call state, traffic.calls call = some state → call < traffic.begun ∧
    ∃ program, state = .ready program ∧ program.Obeys (enrolRules tenant) (past.own call)
      fun result trace => ∀ row, result = .ok row → Enrolled row trace
  returned : ∀ call row, (call, .ok row) ∈ traffic.returned → Enrolled row (past.map Prod.snd)

section

variable {tenant : Uuid} {initial : Option String} {past : History}
  {traffic : Traffic (Except Fault Subscription)}

theorem step_proceed {traffic : Traffic β} {call : Nat} {action : Action}
    {next : action.Reply → Program β} (held : traffic.calls call = some (.ready (.step action next)))
    (idle : action ≠ .flush) :
    traffic.step (.proceed call) =
        (traffic.set call (some (.ready (next (traffic.pipeline.service.perform action).1)))).make
          (.act action) ∧
      traffic.performs (.proceed call) =
        some (call, ⟨action, (traffic.pipeline.service.perform action).1⟩) := by
  simp only [step, performs, held]
  cases action <;> first | exact ⟨rfl, rfl⟩ | exact absurd rfl idle

theorem Enrolling.proceed (enrolling : Enrolling tenant initial past traffic) {call : Nat}
    {action : Action} {next : action.Reply → Program (Except Fault Subscription)}
    (held : traffic.calls call = some (.ready (.step action next))) :
    Enrolling tenant initial (past ++ (traffic.performs (.proceed call)).toList)
      (traffic.step (.proceed call)) := by
  obtain ⟨born, program, same, obeys⟩ := enrolling.calls call _ held
  obtain rfl : Program.step action next = program := by simpa using same
  have idle : action ≠ .flush := by
    rintro rfl
    exact obeys.1
  obtain ⟨stepped, performed⟩ := step_proceed held idle
  have linked : (traffic.step (.proceed call)).customerOf tenant = History.linkedTo initial
      (past ++ [(call, ⟨action, (traffic.pipeline.service.perform action).1⟩)]) := by
    rw [History.linkedTo_concat, ← enrolling.linked, stepped]
    unfold customerOf make
    dsimp only
    rw [Pipeline.after_act _ idle]
    exact traffic.pipeline.service.link_perform obeys.1
  rw [performed, Option.toList_some]
  refine ⟨linked, enrolling.accounted.concat obeys.1 fun row shown => ?_, ?_, ?_, ?_⟩
  · rw [← linked, stepped]
    unfold customerOf make
    dsimp only
    rw [Pipeline.after_act _ idle]
    exact traffic.pipeline.service.shown_perform obeys.1 shown
  · rw [stepped]
    exact List.forall_mem_append.mpr ⟨enrolling.begun, List.forall_mem_singleton.mpr born⟩
  · rw [stepped]
    intro other state present
    -- Only the history of the call that goes on gets longer.
    rcases calls_set_cases present with ⟨rfl, next⟩ | ⟨apart, waiting⟩
    · obtain rfl := Option.some.inj next
      refine ⟨born, _, rfl, ?_⟩
      rw [History.own_concat, if_pos rfl]
      exact obeys.2 _
    · rw [History.own_concat, if_neg apart.symm, List.append_nil]
      exact enrolling.calls other state waiting
  · rw [stepped]
    intro other row member
    obtain ⟨shown, present, rest⟩ := enrolling.returned other row member
    exact ⟨shown, by simp [present], rest⟩

theorem Enrolling.finish (enrolling : Enrolling tenant initial past traffic) {call : Nat}
    {result : Except Fault Subscription} (held : traffic.calls call = some (.ready (.done result))) :
    Enrolling tenant initial past (traffic.step (.proceed call)) := by
  obtain ⟨_, program, same, obeys⟩ := enrolling.calls call _ held
  obtain rfl : Program.done result = program := by simpa using same
  simp only [step, held]
  refine ⟨enrolling.linked, enrolling.accounted, enrolling.begun, fun other state present => ?_,
    fun other row member => ?_⟩
  · rcases calls_set_cases present with ⟨_, gone⟩ | ⟨_, waiting⟩
    · cases gone
    · exact enrolling.calls other state waiting
  · rcases List.mem_append.mp member with earlier | last
    · exact enrolling.returned other row earlier
    · obtain ⟨rfl, returned⟩ := Prod.mk.inj (List.mem_singleton.mp last)
      obtain ⟨performed, present, shown⟩ := obeys row returned.symm
      exact ⟨performed, List.mem_map.mpr ⟨_, History.mem_own.mp present, rfl⟩, shown⟩

theorem Enrolling.begin (enrolling : Enrolling tenant initial past traffic) (email name : String) :
    Enrolling tenant initial past
      (traffic.step (.begin (Lifecycle.createCustomer tenant email name).outcome)) where
  linked := enrolling.linked
  accounted := enrolling.accounted
  begun := fun entry member => (enrolling.begun entry member).trans (Nat.lt_succ_self _)
  calls := by
    intro other state present
    rcases calls_set_cases present with ⟨rfl, begun⟩ | ⟨_, waiting⟩
    · obtain rfl := Option.some.inj begun
      refine ⟨Nat.lt_succ_self _, _, rfl, ?_⟩
      rw [History.own_eq_nil enrolling.begun]
      exact Lifecycle.enrols_createCustomer tenant email name
    · obtain ⟨born, rest⟩ := enrolling.calls other state waiting
      exact ⟨born.trans (Nat.lt_succ_self _), rest⟩
  returned := enrolling.returned

theorem Enrolling.cancel (enrolling : Enrolling tenant initial past traffic) (call : Nat) :
    Enrolling tenant initial past (traffic.step (.cancel call)) := by
  refine ⟨enrolling.linked, enrolling.accounted, enrolling.begun, fun other state present => ?_,
    enrolling.returned⟩
  rcases calls_set_cases present with ⟨_, gone⟩ | ⟨_, waiting⟩
  · cases gone
  · exact enrolling.calls other state waiting

theorem Enrolling.step (enrolling : Enrolling tenant initial past traffic)
    {step : Step (Except Fault Subscription)} (enrols : Enrols tenant step) :
    Enrolling tenant initial (past ++ (traffic.performs step).toList) (traffic.step step) := by
  cases enrols with
  | begin email name => simpa [performs] using enrolling.begin email name
  | proceed call =>
      cases held : traffic.calls call with
      | none => simpa [performs, Traffic.step, held] using enrolling
      | some state =>
          obtain ⟨_, program, rfl, _⟩ := enrolling.calls call state held
          cases program with
          | done result => simpa [performs, held] using enrolling.finish held
          | step action next => exact enrolling.proceed held
  | cancel call => simpa [performs] using enrolling.cancel call
  | clock now =>
      have set : Enrolling tenant initial past (traffic.step (.around (.clock now))) :=
        ⟨enrolling.linked, enrolling.accounted, enrolling.begun, enrolling.calls, enrolling.returned⟩
      simpa [performs] using set
  | switch method down =>
      have switched : Enrolling tenant initial past (traffic.step (.around (.switch method down))) :=
        ⟨enrolling.linked, enrolling.accounted, enrolling.begun, enrolling.calls, enrolling.returned⟩
      simpa [performs] using switched
  | backend backend =>
      have changed : Enrolling tenant initial past (traffic.step (.around (.backend backend))) :=
        ⟨enrolling.linked, enrolling.accounted, enrolling.begun, enrolling.calls, enrolling.returned⟩
      simpa [performs] using changed

theorem Enrolling.run (enrolling : Enrolling tenant initial past traffic)
    {steps : List (Step (Except Fault Subscription))} (enrols : ∀ step ∈ steps, Enrols tenant step) :
    Enrolling tenant initial (past ++ traffic.history steps) (traffic.run steps) := by
  induction steps generalizing traffic past with
  | nil =>
      rw [history, List.append_nil]
      exact enrolling
  | cons step steps ih =>
      rw [history, ← List.append_assoc]
      exact ih (enrolling.step (enrols step List.mem_cons_self)) fun other member =>
        enrols other (List.mem_cons_of_mem step member)

end

section

variable {tenant : Uuid} {start : Traffic (Except Fault Subscription)}
  {steps : List (Step (Except Fault Subscription))}

structure Idle (start : Traffic β) : Prop where
  calls : ∀ call, start.calls call = none
  returned : start.returned = []

theorem Idle.enrolling (idle : start.Idle) (enrols : ∀ step ∈ steps, Enrols tenant step) :
    Enrolling tenant (start.customerOf tenant) (start.history steps) (start.run steps) := by
  have begins : Enrolling tenant (start.customerOf tenant) [] start := by
    refine ⟨rfl, fun before call performed after nothing => ?_, by simp, fun call state present => ?_,
      by simp [idle.returned]⟩
    · exact absurd nothing (by simp)
    · exact absurd ((idle.calls call).symm.trans present) nofun
  simpa using begins.run enrols

/-- The tenant's customer is created once if and only if no call that had seen the row without one has
linked its own after another call had. The calls begin, go on and are dropped in any order; the provider
may fail, but never creates a customer under an id that it has used before. -/
theorem createdOnce_iff_not_raced (tenant : Uuid) (start : Traffic (Except Fault Subscription))
    (idle : start.Idle) (steps : List (Step (Except Fault Subscription)))
    (enrols : ∀ step ∈ steps, Enrols tenant step)
    (distinct : ((start.history steps).filterMap fun entry => entry.2.createdCustomer?).Nodup) :
    CreatedOnce tenant start steps ↔ ¬ (start.history steps).Raced := by
  have whole := idle.enrolling enrols
  have linked : ∀ earlier later, steps = earlier ++ later →
      (start.run earlier).customerOf tenant =
        (start.history earlier).linkedTo (start.customerOf tenant) := by
    intro earlier later split
    have part : ∀ step ∈ earlier, Enrols tenant step := fun step member =>
      enrols step (split ▸ List.mem_append_left later member)
    exact (idle.enrolling part).linked
  constructor
  -- A race replaces one link by another, which the rows at these two moments show.
  · intro once raced
    obtain ⟨first, second, third, one, other, split, before, after, different⟩ :=
      whole.accounted.replaced distinct raced
    obtain ⟨early, later, rfl, past, _⟩ := history_split split
    obtain ⟨earlier, middle, rfl, begun, rest⟩ := history_split past
    have seen : (start.run earlier).customerOf tenant = some one := by
      rw [linked earlier (middle ++ later) (List.append_assoc ..), begun, before]
    have relinked : (start.run (earlier ++ middle)).customerOf tenant = some other := by
      rw [linked (earlier ++ middle) later rfl, past, after]
    have kept := once.kept earlier middle later rfl one seen
    exact different (Option.some.inj (kept.symm.trans relinked))
  · intro calm
    refine ⟨fun earlier middle later split customerId seen => ?_, fun call row member => ?_⟩
    · have pieces : start.history steps = start.history earlier ++ (start.run earlier).history middle ++
          (start.run (earlier ++ middle)).history later := by
        rw [split, history_append, history_append]
      have before := linked earlier (middle ++ later) (split.trans (List.append_assoc ..))
      rw [linked (earlier ++ middle) later split, history_append,
        whole.accounted.kept calm pieces (by rw [← before, seen]; rfl), ← before, seen]
    · have ended := linked steps [] (List.append_nil steps).symm
      rw [ended]
      exact whole.accounted.named calm (whole.returned call row member)

end

def creates (customerId : String) : Step β :=
  .around (.backend (.prepared [.record (.obj [("id", .str customerId)])]))

def quickLinks (tenant : Uuid) : List (Step (Except Fault Subscription)) :=
  [.begin (Lifecycle.createCustomer tenant "a@acme.test" "Acme").outcome,
    .begin (Lifecycle.createCustomer tenant "a@acme.test" "Acme").outcome] ++
  List.replicate 5 (.proceed 0) ++ [.proceed 1, creates "cus_1", .proceed 1, .proceed 1]

def slowLinks : List (Step (Except Fault Subscription)) :=
  [.proceed 1, .proceed 1, creates "cus_2"] ++ List.replicate 4 (.proceed 0)

theorem createdOnce_iff_not_raced_twoCalls :
    let start : Traffic (Except Fault Subscription) := started ⟨1700000000, 0⟩
    let steps := quickLinks ⟨7⟩ ++ slowLinks
    start.Idle ∧ (∀ step ∈ steps, Enrols ⟨7⟩ step) ∧
    ((start.history steps).filterMap fun entry => entry.2.createdCustomer?).Nodup ∧
    (start.history steps).Raced ∧ ¬ CreatedOnce ⟨7⟩ start steps := by
  intro start steps
  have idle : start.Idle := ⟨fun _ => rfl, rfl⟩
  have enrols : ∀ step ∈ steps, Enrols ⟨7⟩ step := by
    simp [steps, quickLinks, slowLinks, creates, Enrols.begin, Enrols.proceed, Enrols.backend]
  have distinct : ((start.history steps).filterMap fun entry => entry.2.createdCustomer?).Nodup := by
    decide +kernel
  have quick : (start.run (quickLinks ⟨7⟩)).customerOf ⟨7⟩ = some "cus_1" := by decide +kernel
  have slow : (start.run steps).customerOf ⟨7⟩ = some "cus_2" := by decide +kernel
  have twice : ¬ CreatedOnce ⟨7⟩ start steps := by
    intro once
    have kept := once.kept (quickLinks ⟨7⟩) slowLinks [] (List.append_nil _).symm "cus_1" quick
    rw [slow] at kept
    exact absurd kept (by decide)
  have exact := createdOnce_iff_not_raced ⟨7⟩ start idle steps enrols distinct
  exact ⟨idle, enrols, distinct, not_not.mp (mt exact.mpr twice), twice⟩

end Traffic

end UsageBilling
