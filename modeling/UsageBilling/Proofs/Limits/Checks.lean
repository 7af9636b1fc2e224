import UsageBilling.Limits
import UsageBilling.Proofs.Tracker.Amid
/-!
Checks of limits while the tracker is at work.
-/
namespace UsageBilling

namespace Store

def Up (store : Store) : Prop := ∀ method, method ≠ .insertUsage → store.isDown method = false

/-- The limit of the tenant's plan. Without a row it is that of the free plan. -/
def planLimit (store : Store) (catalog : Catalog) (key : UsageKey) : Int :=
  ((store.rowOf? key.tenant).elim (catalog.terms .free) fun row => row.terms catalog).limits.get
    key.metric

end Store

theorem Service.Steady.up {before after : Service} (steady : before.Steady after)
    (up : before.store.Up) : after.store.Up := by
  intro method other
  rw [steady.outages method other]
  exact up method other

theorem Subscription.terms_freeTier (id tenant : Uuid) (now : Instant) (catalog : Catalog) :
    (Subscription.freeTier id tenant now).terms catalog = catalog.terms .free := by
  simp [terms, freeTier, Catalog.resolve, Catalog.lookup?, Plan.ofName?_name]

section Steps

variable {pipeline : Pipeline} {schedule : List (List Move)}

theorem Store.periodUsage_eq (store : Store) (tenant : Uuid) (metric : Metric) (moment : Instant) :
    store.periodUsage tenant metric moment =
      if store.isDown .periodUsage then .error Store.Method.periodUsage.outage
      else .ok (Quantity.sum (store.quantitiesAt tenant metric moment)) := by
  unfold Store.periodUsage Store.guarded
  split <;> rfl

theorem Store.periodUsage_of_up {store : Store} (up : store.Up) (tenant : Uuid) (metric : Metric)
    (moment : Instant) : store.periodUsage tenant metric moment =
      .ok (Quantity.sum (store.quantitiesAt tenant metric moment)) := by
  rw [Store.periodUsage_eq, up .periodUsage (by decide)]
  rfl

theorem Store.findByTenant_of_up {store : Store} (up : store.Up) (tenant : Uuid) :
    store.findByTenant tenant = .ok (store.rowOf? tenant) := by
  unfold Store.findByTenant
  rw [Store.guarded_ok (up .findByTenant (by decide))]

theorem Store.insertIfAbsent_freeTier {store : Store} (up : store.Up) (id tenant : Uuid)
    (now : Instant) : ∃ row, (store.insertIfAbsent (.freeTier id tenant now)).1 = .ok row ∧
      ∀ catalog metric, (row.terms catalog).limits.get metric =
        store.planLimit catalog ⟨tenant, metric⟩ := by
  unfold Store.insertIfAbsent
  rw [Store.guarded_ok (up .insertIfAbsent (by decide))]
  unfold Store.planLimit
  cases present : store.rowOf? (Subscription.freeTier id tenant now).tenant with
  | some row =>
      change store.rowOf? tenant = some row at present
      exact ⟨row, rfl, fun catalog metric => by rw [present, Option.elim_some]⟩
  | none =>
      change store.rowOf? tenant = none at present
      refine ⟨.freeTier id tenant now, rfl, fun catalog metric => ?_⟩
      rw [present, Option.elim_none, Subscription.terms_freeTier]

theorem usage_steps (tenant : Uuid) (metric : Metric) : (LimitCheck.usage tenant metric).outcome =
    .step (.pending ⟨tenant, metric⟩) fun pending => .step .now fun now =>
      .step (.periodUsage tenant metric now) fun
        | .ok stored => .done (.ok (Quantity.add stored pending))
        | .error fault => .done (.error fault) := by
  apply congrArg (Program.step _)
  funext pending
  apply congrArg (Program.step _)
  funext now
  apply congrArg (Program.step _)
  funext stored
  cases stored <;> rfl

def insertSteps (id tenant : Uuid) (now : Instant) : Program (Except Fault Subscription) :=
  .step (.insertIfAbsent (.freeTier id tenant now)) fun
    | .error fault => .done (.error fault)
    | .ok row => .step (.count (.operations .createFreeTier)) fun _ => .done (.ok row)

theorem get_steps (tenant : Uuid) : (Lifecycle.get tenant).outcome =
    .step (.findByTenant tenant) fun
      | .error fault => .done (.error fault)
      | .ok (some row) => .done (.ok row)
      | .ok none => .step .now fun now => .step .newId fun id => insertSteps id tenant now := by
  apply congrArg (Program.step _)
  funext found
  rcases found with fault | none | row
  · rfl
  · apply congrArg (Program.step _)
    funext now
    apply congrArg (Program.step _)
    funext id
    apply congrArg (Program.step _)
    funext inserted
    cases inserted <;> rfl
  · rfl

/-- What is pending at the first read of a check and what is stored at the second, added up. -/
def readUsage (pipeline : Pipeline) (key : UsageKey) (first second third : List Move) : Int :=
  Quantity.add
    (Quantity.sum ((pipeline.afterAll (first ++ (second ++ third))).service.store.quantitiesAt
      key.tenant key.metric (pipeline.afterAll (first ++ second)).service.clock))
    ((pipeline.afterAll first).service.tracker.pending key)

theorem amid_usage (key : UsageKey) (first second third : List Move) (rest : List (List Move))
    (pipeline : Pipeline) :
    (LimitCheck.usage key.tenant key.metric).outcome.amid (first :: second :: third :: rest) pipeline =
      (if (pipeline.afterAll (first ++ (second ++ third))).service.store.isDown .periodUsage
        then .error Store.Method.periodUsage.outage else .ok (readUsage pipeline key first second third),
        rest, first ++ .act (.pending key) :: (second ++ .act .now :: (third ++
          [.act (.periodUsage key.tenant key.metric
            (pipeline.afterAll (first ++ second)).service.clock)]))) := by
  have idle : ∀ (pipeline : Pipeline) key, pipeline.after (.act (.pending key)) = pipeline :=
    fun _ _ => rfl
  have still : ∀ pipeline : Pipeline, pipeline.after (.act .now) = pipeline := fun _ => rfl
  unfold readUsage
  simp only [Pipeline.afterAll_append, usage_steps, Program.amid, List.headD_cons, List.tail_cons,
    idle, still, Service.perform]
  cases down : (((pipeline.afterAll first).afterAll second).afterAll third).service.store.isDown
      .periodUsage with
  | true =>
      simp only [Store.periodUsage_eq, down, if_true]
      rfl
  | false =>
      simp only [Store.periodUsage_eq, down]
      rfl

theorem up_afterAll (up : pipeline.service.store.Up) {moves : List Move}
    (calm : ∀ move ∈ moves, move.Calm) : (pipeline.afterAll moves).service.store.Up :=
  (pipeline.steady_afterAll calm).up up

theorem up_act (up : pipeline.service.store.Up) (action : Action) :
    (pipeline.after (.act action)).service.store.Up :=
  (pipeline.steady_after (show (Move.act action).Calm from trivial)).up up

def IsPlanLimit (pipeline : Pipeline) (made : List Move) (catalog : Catalog) (key : UsageKey)
    (limit : Int) : Prop :=
  ∃ earlier, earlier <+: made ∧ limit = (pipeline.afterAll earlier).service.store.planLimit catalog key

theorem IsPlanLimit.later {before made : List Move} {catalog : Catalog} {key : UsageKey} {limit : Int}
    (isLimit : IsPlanLimit (pipeline.afterAll before) made catalog key limit) :
    IsPlanLimit pipeline (before ++ made) catalog key limit := by
  obtain ⟨earlier, front, same⟩ := isLimit
  refine ⟨before ++ earlier, (List.prefix_append_right_inj before).mpr front, ?_⟩
  rwa [Pipeline.afterAll_append]

def IsRow (pipeline : Pipeline) (tenant : Uuid) (reply : Except Fault Subscription)
    (made : List Move) : Prop :=
  ∃ row, reply = .ok row ∧ ∀ catalog metric, IsPlanLimit pipeline made catalog ⟨tenant, metric⟩
    ((row.terms catalog).limits.get metric)

theorem ensures_insert (id tenant : Uuid) (now : Instant) (up : pipeline.service.store.Up) :
    (insertSteps id tenant now).Ensures pipeline (IsRow pipeline tenant) := by
  intro first calmFirst
  obtain ⟨row, inserted, limit⟩ :=
    Store.insertIfAbsent_freeTier (up_afterAll up calmFirst) id tenant now
  simp only [Service.perform, Service.onStore, inserted]
  intro second _
  exact ⟨row, rfl, fun catalog metric => ⟨first, List.prefix_append _ _, limit catalog metric⟩⟩

theorem ensures_get (tenant : Uuid) (up : pipeline.service.store.Up) :
    (Lifecycle.get tenant).outcome.Ensures pipeline (IsRow pipeline tenant) := by
  rw [get_steps]
  intro first calmFirst
  have found := Store.findByTenant_of_up (up_afterAll up calmFirst) tenant
  simp only [Service.perform, found]
  cases present : (pipeline.afterAll first).service.store.rowOf? tenant with
  | some row =>
      refine ⟨row, rfl, fun catalog metric => ⟨first, List.prefix_append _ _, ?_⟩⟩
      simp only [Store.planLimit, present, Option.elim_some]
  | none =>
      intro second calmSecond third calmThird
      let before := first ++ .act (.findByTenant tenant) :: (second ++
        .act .now :: (third ++ [.act .newId]))
      have state : (((((pipeline.afterAll first).after (.act (.findByTenant tenant))).afterAll
          second).after (.act .now)).afterAll third).after (.act .newId) =
            pipeline.afterAll before := by
        simp only [before, Pipeline.afterAll_append, Pipeline.afterAll_cons]
        rfl
      have upBefore : (pipeline.afterAll before).service.store.Up := by
        rw [← state]
        exact up_act (up_afterAll (up_act (up_afterAll (up_act (up_afterAll up calmFirst) _)
          calmSecond) _) calmThird) _
      rw [state]
      refine (ensures_insert _ tenant _ upBefore).mono fun reply made inserted => ?_
      obtain ⟨row, same, limits⟩ := inserted
      refine ⟨row, same, fun catalog metric => ?_⟩
      have later := (limits catalog metric).later
      simpa only [before, List.append_assoc, List.cons_append, List.nil_append] using later

theorem ensures_checkUsageLimit (catalog : Catalog) (tenant : Uuid) (metric : Metric) (usage : Int)
    (up : pipeline.service.store.Up) :
    (Lifecycle.checkUsageLimit catalog tenant metric.name usage).outcome.Ensures pipeline
      fun reply made => ∃ limit, IsPlanLimit pipeline made catalog ⟨tenant, metric⟩ limit ∧
        reply = .ok (limit ≠ unlimited && limit ≤ usage, limit) := by
  unfold Lifecycle.checkUsageLimit
  rw [Metric.ofName?_name]
  apply Program.ensures_bind
  refine (ensures_get tenant up).mono fun reply made found => ?_
  obtain ⟨row, rfl, limits⟩ := found
  exact ⟨_, (List.append_nil made).symm ▸ limits catalog metric, rfl⟩

theorem check_eq (catalog : Catalog) (tenant : Uuid) (metric : Metric) :
    LimitCheck.check catalog tenant metric.name = (do
      let current ← LimitCheck.usage tenant metric
      let (exceeded, limit) ← Lifecycle.checkUsageLimit catalog tenant metric.name current
      if exceeded then perform (.count (.limitExceeded metric))
      return ⟨metric.name, exceeded, limit, current⟩) := by
  unfold LimitCheck.check
  rw [Metric.ofName?_name]

def checkOf (metric : Metric) (limit usage : Int) : LimitCheck :=
  ⟨metric.name, limit ≠ unlimited && limit ≤ usage, limit, usage⟩

theorem ensures_afterUsage (catalog : Catalog) (tenant : Uuid) (metric : Metric) (usage : Int)
    (up : pipeline.service.store.Up) :
    Program.Ensures (Attempt.outcome (do
        let (exceeded, limit) ← Lifecycle.checkUsageLimit catalog tenant metric.name usage
        if exceeded then perform (.count (.limitExceeded metric))
        return (⟨metric.name, exceeded, limit, usage⟩ : LimitCheck))) pipeline
      fun reply made => ∃ limit, IsPlanLimit pipeline made catalog ⟨tenant, metric⟩ limit ∧
        reply = .ok (checkOf metric limit usage) := by
  apply Program.ensures_bind
  refine (ensures_checkUsageLimit catalog tenant metric usage up).mono fun reply made checked => ?_
  obtain ⟨limit, isLimit, rfl⟩ := checked
  have kept : ∀ rest, IsPlanLimit pipeline (made ++ rest) catalog ⟨tenant, metric⟩ limit := by
    intro rest
    obtain ⟨earlier, front, same⟩ := isLimit
    exact ⟨earlier, front.trans (List.prefix_append _ _), same⟩
  cases exceeded : (limit ≠ unlimited && limit ≤ usage : Bool) with
  | true =>
      intro others _
      exact ⟨limit, kept _, by rw [checkOf, exceeded]⟩
  | false => exact ⟨limit, kept [], by rw [checkOf, exceeded]⟩

theorem amid_check (catalog : Catalog) (key : UsageKey) (first second third : List Move)
    (rest : List (List Move)) (up : pipeline.service.store.Up)
    (calm : ∀ moves ∈ first :: second :: third :: rest, ∀ move ∈ moves, move.Calm) :
    ∃ limit,
      ((LimitCheck.check catalog key.tenant key.metric.name).outcome.amid
          (first :: second :: third :: rest) pipeline).1 =
        .ok (checkOf key.metric limit (readUsage pipeline key first second third)) ∧
      IsPlanLimit pipeline ((LimitCheck.check catalog key.tenant key.metric.name).outcome.amid
        (first :: second :: third :: rest) pipeline).2.2 catalog key limit := by
  have calmReads : ∀ move ∈ first ++ (second ++ third), move.Calm := by
    intro move member
    rcases List.mem_append.mp member with early | member
    · exact calm first (by simp) move early
    · rcases List.mem_append.mp member with early | late
      · exact calm second (by simp) move early
      · exact calm third (by simp) move late
  have works := up_afterAll up calmReads .periodUsage (by decide)
  have usage := amid_usage key first second third rest pipeline
  rw [works] at usage
  have upThen := up_afterAll up
    ((LimitCheck.usage key.tenant key.metric).outcome.amid_calm calm pipeline).2
  have calmRest : ∀ moves ∈ rest, ∀ move ∈ moves, move.Calm := by
    intro moves member
    exact calm moves (by simp [member])
  obtain ⟨limit, isLimit, reply⟩ := (ensures_afterUsage catalog key.tenant key.metric
    (readUsage pipeline key first second third) upThen).amid calmRest
  rw [check_eq, Attempt.amid_bind_ok (congrArg Prod.fst usage)]
  simp only [usage] at reply isLimit ⊢
  exact ⟨limit, reply, isLimit.later⟩

end Steps

end UsageBilling
