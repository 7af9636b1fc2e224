import UsageBilling.Proofs.Limits.Checks
import UsageBilling.Proofs.Tracker.Hidden
import UsageBilling.Proofs.Tracker.Unflushed
import UsageBilling.Service.Run
/-!
Limit checks never count too little. While the clock stands still a check counts at least what was
accepted before it began, whatever flushes do between its two reads; where none of them writes in
between, it counts exactly what was accepted up to the first. Flushes that come before a check do not
show in its answer at all.
-/
namespace UsageBilling

namespace Program

variable {α β : Type}

theorem run_bind (program : Program α) (next : α → Program β) (service : Service) :
    (program >>= next).run service =
      (next (program.run service).1).run (program.run service).2 := by
  induction program generalizing service with
  | done result => rfl
  | step action later ih => exact ih _ _

end Program

namespace Attempt

variable {α β : Type}

theorem run_bind (attempt : Attempt α) (next : α → Attempt β) (service : Service) :
    (attempt >>= next).outcome.run service =
      match (attempt.outcome.run service).1 with
      | .ok result => (next result).outcome.run (attempt.outcome.run service).2
      | .error fault => (.error fault, (attempt.outcome.run service).2) := by
  change (attempt.outcome >>= fun reply => _).run service = _
  rw [Program.run_bind]
  cases (attempt.outcome.run service).1 <;> rfl

end Attempt

section Uninterrupted

def Service.countedUsage (service : Service) (key : UsageKey) : Int :=
  Quantity.add
    (Quantity.sum (service.store.quantitiesAt key.tenant key.metric service.clock))
    (service.tracker.pending key)

/-- The terms that a check finds which runs alone. A tenant without a row is given the free ones, as
long as a row can be written. -/
def Store.termsOf (store : Store) (catalog : Catalog) (tenant : Uuid) : Except Fault PlanTerms :=
  match store.findByTenant tenant with
  | .error fault => .error fault
  | .ok (some row) => .ok (row.terms catalog)
  | .ok none => if store.isDown .insertIfAbsent then .error Store.Method.insertIfAbsent.outage
    else .ok (catalog.terms .free)

def Service.checkAnswer (service : Service) (catalog : Catalog) (key : UsageKey) :
    Except Fault LimitCheck :=
  if service.store.isDown .periodUsage then .error Store.Method.periodUsage.outage
  else (service.store.termsOf catalog key.tenant).map fun terms =>
    checkOf key.metric (terms.limits.get key.metric) (service.countedUsage key)

variable (service : Service)

theorem run_usage (key : UsageKey) :
    (LimitCheck.usage key.tenant key.metric).outcome.run service =
      (if service.store.isDown .periodUsage then .error Store.Method.periodUsage.outage
        else .ok (service.countedUsage key), service) := by
  rw [usage_steps]
  simp only [Program.run, Service.perform, Store.periodUsage_eq]
  by_cases down : service.store.isDown .periodUsage = true
  · simp only [down, if_true]
    rfl
  · simp only [down]
    rfl

theorem run_get (catalog : Catalog) (tenant : Uuid) :
    ((Lifecycle.get tenant).outcome.run service).1.map (·.terms catalog) =
      service.store.termsOf catalog tenant := by
  rw [get_steps]
  simp only [Program.run, Service.perform, Store.termsOf]
  rcases found : service.store.findByTenant tenant with fault | _ | row
  · rfl
  · have missing : service.store.rowOf? tenant = none := by
      unfold Store.findByTenant Store.guarded at found
      split at found
      · cases found
      · exact Except.ok.inj found
    have own : service.store.rowOf?
        (Subscription.freeTier service.ids.draw.1 tenant service.clock).tenant = none := missing
    simp only [insertSteps, Program.run, Service.perform, Service.onStore, Store.insertIfAbsent,
      Store.guarded, own]
    cases service.store.isDown .insertIfAbsent with
    | true => rfl
    | false => exact congrArg Except.ok (Subscription.terms_freeTier _ _ _ _)
  · rfl

theorem run_checkUsageLimit (catalog : Catalog) (key : UsageKey) (usage : Int) :
    ((Lifecycle.checkUsageLimit catalog key.tenant key.metric.name usage).outcome.run service).1 =
      (service.store.termsOf catalog key.tenant).map fun terms =>
        ((terms.limits.get key.metric ≠ unlimited && terms.limits.get key.metric ≤ usage : Bool),
          terms.limits.get key.metric) := by
  unfold Lifecycle.checkUsageLimit
  rw [Metric.ofName?_name, Attempt.run_bind, ← run_get service catalog key.tenant]
  cases ((Lifecycle.get key.tenant).outcome.run service).1 <;> rfl

theorem run_check (catalog : Catalog) (key : UsageKey) :
    ((LimitCheck.check catalog key.tenant key.metric.name).outcome.run service).1 =
      service.checkAnswer catalog key := by
  unfold Service.checkAnswer
  rw [check_eq, Attempt.run_bind, run_usage]
  cases service.store.isDown .periodUsage with
  | true => rfl
  | false =>
      simp only [Bool.false_eq_true, if_false]
      rw [Attempt.run_bind, run_checkUsageLimit]
      cases service.store.termsOf catalog key.tenant with
      | error fault => rfl
      | ok terms =>
          dsimp only [Except.map]
          unfold checkOf
          cases (terms.limits.get key.metric ≠ unlimited &&
            terms.limits.get key.metric ≤ service.countedUsage key : Bool) <;> rfl

variable {service}

theorem checkAnswer_of_up (up : service.store.Up) (catalog : Catalog) (key : UsageKey) :
    service.checkAnswer catalog key =
      .ok (checkOf key.metric (service.store.planLimit catalog key) (service.countedUsage key)) := by
  unfold Service.checkAnswer Store.termsOf Store.planLimit
  rw [up .periodUsage (by decide), up .insertIfAbsent (by decide), Store.findByTenant_of_up up]
  cases service.store.rowOf? key.tenant <;> rfl

end Uninterrupted

section Reads

variable {start : Pipeline} {key : UsageKey}

theorem pending_eq (present : start.Present) (key : UsageKey) : start.service.tracker.pending key =
    min (start.service.tracker.live.get key + start.service.tracker.inflight.get key)
      Quantity.greatest :=
  Tracker.pending_eq_min ⟨present.balanced.service.live, present.balanced.service.inflight⟩ key

theorem stored_le {later : Pipeline} (present : later.Present)
    (steady : start.service.Steady later.service) (key : UsageKey) :
    start.service.store.stored key ≤ later.service.store.stored key := by
  obtain ⟨more, contents⟩ := steady.contents
  rw [Store.stored_eq_sum_contents, Store.stored_eq_sum_contents, ← contents, List.filter_append,
    List.map_append, List.sum_append]
  have nonneg : 0 ≤ ((more.filter fun content =>
      content.2.1.tenant = key.tenant && content.2.1.metric = key.metric.name).map
        fun content => content.2.2).sum := by
    apply List.sum_nonneg
    intro amount member
    obtain ⟨content, found, rfl⟩ := List.mem_map.mp member
    have bounds := present.balanced.service.stored content
      (contents ▸ List.mem_append_right _ (List.mem_of_mem_filter found))
    exact le_trans (by decide) bounds.1
  omega

theorem readUsage_bounds (key : UsageKey) (fresh : start.Fresh)
    (before : start.service.clock.BeforeLastMonth)
    (earlier first second third : List Move)
    (calm : ∀ move ∈ earlier ++ first ++ second ++ third, move.Calm) :
    min (start.accepted key (earlier ++ first) : Int) Quantity.greatest ≤
        readUsage (start.afterAll earlier) key first second third ∧
      ((start.afterAll (earlier ++ first ++ second ++ third)).service.store.batches =
          (start.afterAll (earlier ++ first)).service.store.batches →
        readUsage (start.afterAll earlier) key first second third =
          min (start.accepted key (earlier ++ first) : Int) Quantity.greatest) := by
  have calmFirst : ∀ move ∈ earlier ++ first, move.Calm := by
    intro move member
    exact calm move (by simp only [List.mem_append] at member ⊢; tauto)
  have calmBetween : ∀ move ∈ second ++ third, move.Calm := by
    intro move member
    exact calm move (by simp only [List.mem_append] at member ⊢; tauto)
  have calmThird : ∀ move ∈ third, move.Calm := by
    intro move member
    exact calmBetween move (List.mem_append_right _ member)
  have start' := fresh.present before
  have readFirst := start'.afterAll calmFirst
  have readSecond := start'.afterAll calm
  have between := (start.afterAll (earlier ++ first)).steady_afterAll calmBetween
  rw [← Pipeline.afterAll_append, ← List.append_assoc] at between
  have clock : (start.afterAll (earlier ++ first ++ second ++ third)).service.clock =
      (start.afterAll (earlier ++ first ++ second)).service.clock := by
    rw [Pipeline.afterAll_append]
    exact (Pipeline.steady_afterAll _ calmThird).clock
  have usage : readUsage (start.afterAll earlier) key first second third =
      Quantity.add (min ((start.afterAll (earlier ++ first ++ second ++ third)).service.store.stored
        key) Quantity.greatest)
        (min ((start.afterAll (earlier ++ first)).service.tracker.live.get key +
          (start.afterAll (earlier ++ first)).service.tracker.inflight.get key)
          Quantity.greatest) := by
    have stored := readSecond.sum_quantitiesAt key
    rw [clock] at stored
    rw [← stored, ← pending_eq readFirst key]
    simp only [readUsage, ← Pipeline.afterAll_append, List.append_assoc]
  have grown := stored_le readSecond between key
  have nonneg := readFirst.balanced.service.stored_nonneg key
  obtain ⟨liveNonneg, _⟩ := Buffer.get_bounds readFirst.balanced.service.live key
  obtain ⟨slotNonneg, _⟩ := Buffer.get_bounds readFirst.balanced.service.inflight key
  have carried := (fresh.afterAll (earlier ++ first)).2 key
  have held := carried.cutOff
  -- Rows are only added: what was stored at the first read is so at the second.
  rw [usage, Quantity.add_cutOff (by omega) (by omega), ← held]
  unfold Service.held
  constructor
  · omega
  · intro unwritten
    have same : (start.afterAll (earlier ++ first ++ second ++ third)).service.store.stored key =
        (start.afterAll (earlier ++ first)).service.store.stored key :=
      Store.stored_of_contents (between.unwritten unwritten) key
    omega

theorem countedUsage_eq (fresh : start.Fresh) (before : start.service.clock.BeforeLastMonth)
    {moves : List Move} (calm : ∀ move ∈ moves, move.Calm) (key : UsageKey) :
    (start.afterAll moves).service.countedUsage key =
      min (start.accepted key moves : Int) Quantity.greatest := by
  have bounds := readUsage_bounds key fresh before moves [] [] [] (by simpa using calm)
  simp only [List.append_nil, true_implies] at bounds
  exact bounds.2

end Reads

/-- A check among other moves, with the clock standing still. It answers, and it never counts less than
what was accepted before it began, nor anything else than what was accepted up to its first read, unless
a flush has written its rows between the two reads. The limit is that of the tenant's plan while the
check ran. Two runs that differ in nothing but flushes end with the same answer. An accepted amount
above the greatest one counts as that, which makes no difference to a sum cut off there. -/
theorem check_counts_accepted (catalog : Catalog) (key : UsageKey) (start : Pipeline)
    (fresh : start.Fresh) (up : start.service.store.Up)
    (representable : start.service.clock.BeforeLastMonth) (before first second third : List Move)
    (rest : List (List Move))
    (calm : ∀ moves ∈ before :: first :: second :: third :: rest, ∀ move ∈ moves, move.Calm) :
    (∃ check,
      ((LimitCheck.check catalog key.tenant key.metric.name).outcome.amid
        (first :: second :: third :: rest) (start.afterAll before)).1 = .ok check ∧
      min (start.accepted key before : Int) Quantity.greatest ≤ check.currentUsage ∧
      ((start.afterAll (before ++ first ++ second ++ third)).service.store.batches =
          (start.afterAll (before ++ first)).service.store.batches →
        check.currentUsage = min (start.accepted key (before ++ first) : Int) Quantity.greatest) ∧
      IsPlanLimit (start.afterAll before)
        ((LimitCheck.check catalog key.tenant key.metric.name).outcome.amid
          (first :: second :: third :: rest) (start.afterAll before)).2.2 catalog key check.limit ∧
      (check.exceeded = true ↔ check.limit ≠ unlimited ∧ check.limit ≤ check.currentUsage)) ∧
    ∀ other, (∀ move ∈ other, move.Calm) →
      (other.filter fun move => !move.flushes) = (before.filter fun move => !move.flushes) →
      ((LimitCheck.check catalog key.tenant key.metric.name).outcome.run
          (start.afterAll other).service).1 =
        ((LimitCheck.check catalog key.tenant key.metric.name).outcome.run
          (start.afterAll before).service).1 := by
  have calmBefore : ∀ move ∈ before, move.Calm := calm before (by simp)
  have upBefore := up_afterAll up calmBefore
  constructor
  · have calmReads : ∀ move ∈ before ++ first ++ second ++ third, move.Calm := by
      intro move member
      simp only [List.mem_append] at member
      rcases member with ((member | member) | member) | member
      · exact calm before (by simp) move member
      · exact calm first (by simp) move member
      · exact calm second (by simp) move member
      · exact calm third (by simp) move member
    obtain ⟨limit, answer, isLimit⟩ := amid_check catalog key first second third rest upBefore
      fun moves member => calm moves (List.mem_cons_of_mem before member)
    obtain ⟨least, exact⟩ := readUsage_bounds key fresh representable before first second third
      calmReads
    refine ⟨_, answer, ?_, exact, isLimit, ?_⟩
    · have more := start.accepted_append key before first
      simp only [checkOf]
      omega
    · simp only [checkOf, Bool.and_eq_true, decide_eq_true_eq]
  · intro other calmOther same
    have upOther := up_afterAll up calmOther
    obtain ⟨left, leftSum⟩ := Pipeline.alike_afterAll (.refl start.service) other
    obtain ⟨right, rightSum⟩ := Pipeline.alike_afterAll (.refl start.service) before
    rw [same] at left leftSum
    -- Both runs look the same to those who do not flush, and so does what is counted.
    have alike := left.trans right.symm
    have limit : (start.afterAll other).service.store.planLimit catalog key =
        (start.afterAll before).service.store.planLimit catalog key := by
      unfold Store.planLimit
      rw [Store.rowOf?_congr alike.subscriptions]
    rw [run_check, run_check, checkAnswer_of_up upOther, checkAnswer_of_up upBefore, limit,
      countedUsage_eq fresh representable calmOther, countedUsage_eq fresh representable calmBefore,
      leftSum, rightSum]

def wholeFlush : List Move :=
  .event (.flush 0) :: List.replicate 4 (.event .work)

/-- Five units are on their way into the store while a check reads, and three more come in. -/
theorem check_counts_accepted_wholeFlush :
    ∃ (catalog : Catalog) (key : UsageKey) (start : Pipeline),
      start.Fresh ∧ start.service.store.Up ∧ start.service.clock.BeforeLastMonth ∧
      (∀ moves ∈ [[.event (.track key 5)], wholeFlush.take 2, wholeFlush.drop 2,
        [.event (.track key 3)]], ∀ move ∈ moves, move.Calm) ∧
      ∃ check, ((LimitCheck.check catalog key.tenant key.metric.name).outcome.amid
          [wholeFlush.take 2, wholeFlush.drop 2, [.event (.track key 3)]]
          (start.afterAll [.event (.track key 5)])).1 = .ok check ∧
        5 ≤ check.currentUsage := by
  have fresh : Pipeline.Fresh { service := { clock := ⟨1700000000, 0⟩ } } := ⟨rfl, rfl, rfl, rfl⟩
  have up : Store.Up {} := fun method _ => rfl
  obtain ⟨⟨check, answer, least, _⟩, _⟩ := check_counts_accepted ⟨{}⟩ ⟨⟨1⟩, .testRuns⟩
    { service := { clock := ⟨1700000000, 0⟩ } } fresh up (by decide)
    [.event (.track ⟨⟨1⟩, .testRuns⟩ 5)] (wholeFlush.take 2) (wholeFlush.drop 2)
    [.event (.track ⟨⟨1⟩, .testRuns⟩ 3)] [] (by decide)
  exact ⟨⟨{}⟩, ⟨⟨1⟩, .testRuns⟩, _, fresh, up, by decide, by decide, check, answer, least⟩

end UsageBilling
