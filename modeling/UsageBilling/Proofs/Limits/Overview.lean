import UsageBilling.Proofs.Http.Isolation
import UsageBilling.Proofs.Tracker.Alone
import UsageBilling.Proofs.Tracker.Readings
/-!
The usage of a tenant beside its limits. A report of usage flushes first and then adds up what is stored.
The checks that follow it count what is stored and what is pending. After the flush nothing is pending,
so both come to the same, whatever the rows and their periods are.
-/
namespace UsageBilling

open Quantity

namespace Quantity

theorem add_zero_right {amount : Int} (inRange : InRange amount) : add amount 0 = amount := by
  rw [add, Int.add_zero, clamp_of_inRange inRange]

theorem sum_inRange (amounts : List Int) : InRange (sum amounts) := by
  rcases amounts.eq_nil_or_concat with rfl | ⟨front, last, rfl⟩
  · decide
  · rw [sum, List.concat_eq_append, List.foldl_append]
    exact clamp_inRange _

end Quantity

theorem Store.up_of_outages {before after : Store} (same : after.outages = before.outages)
    (up : before.Up) : after.Up := by
  intro method other
  have works := up method other
  unfold Store.isDown at works ⊢
  rwa [same]

def Action.LeavesUsage : Action → Prop
  | .track .. | .flush => False
  | _ => True

namespace Service

variable {service between after : Service}

theorem KeepsUsage.refl (service : Service) : service.KeepsUsage service := ⟨rfl, .refl _, rfl⟩

theorem KeepsUsage.trans (first : service.KeepsUsage between) (second : between.KeepsUsage after) :
    service.KeepsUsage after where
  tracker := second.tracker.trans first.tracker
  store := ⟨second.store.contents.trans first.store.contents,
    second.store.batches.trans first.store.batches, second.store.outages.trans first.store.outages⟩
  clock := second.clock.trans first.clock

theorem KeepsUsage.up (keeps : service.KeepsUsage after) (up : service.store.Up) : after.store.Up :=
  Store.up_of_outages keeps.store.outages up

theorem KeepsUsage.quantitiesAt (keeps : service.KeepsUsage after) (tenant : Uuid) (metric : Metric)
    (moment : Instant) :
    after.store.quantitiesAt tenant metric moment = service.store.quantitiesAt tenant metric moment := by
  rw [Store.quantitiesAt_eq_contents, Store.quantitiesAt_eq_contents, keeps.store.contents]

theorem KeepsUsage.countedUsage (keeps : service.KeepsUsage after) (key : UsageKey) :
    after.countedUsage key = service.countedUsage key := by
  unfold Service.countedUsage
  rw [keeps.tracker, keeps.clock, keeps.quantitiesAt]

end Service

section Programs

variable {α β γ : Type}

instance : LawfulMonad Program := LawfulMonad.mk' Program
  (fun program => by
    induction program with
    | done result => rfl
    | step action next ih => exact congrArg (Program.step action) (funext ih))
  (fun _ _ => rfl)
  (fun program _ _ => by
    induction program with
    | done result => rfl
    | step action next ih => exact congrArg (Program.step action) (funext ih))

theorem Program.Within.keepsUsage {program : Program α} (within : program.Within Action.LeavesUsage)
    (service : Service) : service.KeepsUsage (program.run service).2 := by
  induction program generalizing service with
  | done result => exact .refl service
  | step action next ih =>
      obtain ⟨leaves, rest⟩ := within
      have first : service.KeepsUsage (service.perform action).2 := by
        apply service.keepsUsage_perform action
        · rintro key quantity rfl
          exact leaves
        · rintro rfl
          exact leaves
      exact first.trans (ih _ (rest _) _)

theorem Attempt.run_lift (program : Program α) (next : α → Attempt β) (service : Service) :
    ((liftM program : Attempt α) >>= next).outcome.run service =
      (next (program.run service).1).outcome.run (program.run service).2 := by
  have lifted : (liftM program : Attempt α).outcome.run service =
      (.ok (program.run service).1, (program.run service).2) :=
    Program.run_bind program _ service
  rw [Attempt.run_bind, lifted]

theorem Attempt.run_mapM {read : α → Attempt β} {view : β → γ} {shown : α → γ} {keeps : Service → Prop}
    (each : ∀ value service, keeps service → ∃ result after,
      (read value).outcome.run service = (.ok result, after) ∧ keeps after ∧ view result = shown value)
    (values : List α) {service : Service} (start : keeps service) : ∃ results after,
      (values.mapM read).outcome.run service = (.ok results, after) ∧ keeps after ∧
        results.map view = values.map shown := by
  induction values generalizing service with
  | nil => exact ⟨[], service, rfl, start, rfl⟩
  | cons value values ih =>
      obtain ⟨result, between, first, kept, same⟩ := each value service start
      obtain ⟨results, after, rest, ends, all⟩ := ih kept
      refine ⟨result :: results, after, ?_, ends, by rw [List.map_cons, List.map_cons, same, all]⟩
      rw [List.mapM_cons, Attempt.run_bind, first]
      dsimp only
      rw [Attempt.run_bind, rest]
      rfl

end Programs

section Reads

variable {service : Service} {tenant : Uuid}

theorem LimitCheck.leavesUsage_check (catalog : Catalog) (tenant : Uuid) (metric : Metric) :
    (check catalog tenant metric.name).outcome.Within Action.LeavesUsage := by
  rw [check_eq]
  apply Attempt.within_bind
  · rw [usage_steps]
    refine ⟨trivial, fun pending => ⟨trivial, fun now => ⟨trivial, ?_⟩⟩⟩
    rintro (fault | stored) <;> trivial
  intro current
  apply Attempt.within_bind
  · refine (Lifecycle.conducts_checkUsageLimit catalog tenant metric.name current).within ?_
    intro trace action allowed
    cases action with
    | track key quantity => exact allowed.elim
    | flush => exact allowed.elim
    | _ => trivial
  rintro ⟨exceeded, limit⟩
  cases exceeded with
  | true => exact ⟨trivial, fun _ => trivial⟩
  | false => trivial

theorem run_checkAll (up : service.store.Up) (catalog : Catalog) (tenant : Uuid) :
    ∃ checks after,
      (LimitCheck.checkAll catalog tenant).outcome.run service = (.ok checks, after) ∧
      service.KeepsUsage after ∧ checks.map (fun check => (check.metric, check.currentUsage)) =
        Metric.all.map fun metric => (metric.name, service.countedUsage ⟨tenant, metric⟩) := by
  refine Attempt.run_mapM (fun metric present (keeps : service.KeepsUsage present) => ?_) Metric.all
    (.refl service)
  have answer := run_check present catalog ⟨tenant, metric⟩
  rw [checkAnswer_of_up (keeps.up up)] at answer
  refine ⟨_, _, Prod.ext answer rfl, ?_, ?_⟩
  · exact keeps.trans ((LimitCheck.leavesUsage_check catalog tenant metric).keepsUsage present)
  · exact Prod.ext rfl (keeps.countedUsage _)

theorem UsageTotals.run_gather (up : service.store.Up) (tenant : Uuid) (now : Instant)
    (metrics : List Metric) (totals : UsageTotals) : ∃ gathered,
      (gather tenant now metrics totals).outcome.run service = (.ok gathered, service) ∧
      gathered.period = totals.period ∧ ∀ metric, gathered.get metric =
        if metric ∈ metrics then sum (service.store.quantitiesAt tenant metric now)
        else totals.get metric := by
  induction metrics generalizing totals with
  | nil => exact ⟨totals, rfl, rfl, fun _ => rfl⟩
  | cons metric metrics ih =>
      let used := sum (service.store.quantitiesAt tenant metric now)
      obtain ⟨gathered, run, period, amounts⟩ := ih (totals.set metric used)
      have read : (orFail (perform (.periodUsage tenant metric now))).outcome.run service =
          (.ok used, service) :=
        Prod.ext (Store.periodUsage_of_up up tenant metric now) rfl
      refine ⟨gathered, ?_, ?_, fun asked => ?_⟩
      · rw [gather, Attempt.run_bind, read]
        exact run
      · rw [period]
        cases metric <;> rfl
      · rw [amounts, UsageTotals.get_set]
        by_cases own : asked = metric
        · simp [own, used]
        · simp [own]

theorem UsageTotals.run_current {report : FlushReport} {flushed : Service} (tenant : Uuid)
    (ended : service.flush .manual = (.ok report, flushed)) (up : flushed.store.Up) : ∃ totals,
      (current tenant).outcome.run service = (.ok totals, flushed) ∧
      totals.period = flushed.periodAt tenant flushed.clock ∧
      ∀ metric, totals.get metric = sum (flushed.store.quantitiesAt tenant metric flushed.clock) := by
  obtain ⟨totals, run, period, amounts⟩ := run_gather up tenant flushed.clock Metric.all
    { period := flushed.periodAt tenant flushed.clock }
  refine ⟨totals, ?_, period, fun metric => by rw [amounts, if_pos metric.mem_all]⟩
  have flushes : (orFail (perform .flush)).outcome.run service = (.ok report, flushed) := ended
  have found : (periodOf tenant flushed.clock).run flushed =
      (flushed.periodAt tenant flushed.clock, flushed) := by
    unfold periodOf Service.periodAt
    rw [Program.run_bind]
    cases read : flushed.store.findByTenant tenant <;>
      simp [perform, Program.run, Service.perform, read, pure]
  rw [current, Attempt.run_bind, flushes]
  dsimp only
  rw [Attempt.run_lift]
  change (liftM (periodOf tenant flushed.clock) >>= _ : Attempt UsageTotals).outcome.run flushed = _
  rw [Attempt.run_lift, found]
  exact run

end Reads

namespace Tracker

variable {tracker : Tracker}

theorem pending_requeue (wellFormed : tracker.WellFormed) (key : UsageKey) :
    tracker.requeue.pending key = tracker.pending key := by
  have merged := Buffer.get_merge wellFormed.live wellFormed.inflight key
  have bounds := Buffer.get_bounds (Buffer.wellFormed_merge wellFormed.live wellFormed.inflight) key
  unfold pending requeue
  rw [Buffer.get_nil, add_zero bounds.1 bounds.2, merged]

theorem wellFormed_snapshot (wellFormed : tracker.WellFormed) : tracker.snapshot.WellFormed :=
  ⟨Buffer.wellFormed_nil, Buffer.wellFormed_merge wellFormed.live wellFormed.inflight⟩

theorem pending_snapshot (wellFormed : tracker.WellFormed) (key : UsageKey) :
    tracker.snapshot.pending key = tracker.pending key := by
  rw [← pending_requeue wellFormed]
  exact Quantity.add_comm _ _

end Tracker

/-- What a flush comes to with nothing in between: it has stored all that was pending, or failed and left
all as it was. -/
inductive Service.Flushed (before : Service) : Except Fault FlushReport × Service → Prop
  | landed (report : FlushReport) (after : Service) (clock : after.clock = before.clock)
      (outages : after.store.outages = before.store.outages)
      (empty : ∀ key, after.tracker.pending key = 0) : Flushed before (.ok report, after)
  | refused (after : Service) (clock : after.clock = before.clock) (store : after.store = before.store)
      (pending : ∀ key, after.tracker.pending key = before.tracker.pending key) :
      Flushed before (.error Store.Method.insertUsage.outage, after)

theorem Service.flush_flushed {service : Service} (wellFormed : service.tracker.WellFormed)
    (trigger : Trigger) : service.Flushed (service.flush trigger) := by
  unfold flush
  dsimp only
  split
  · next empty =>
      refine .landed _ _ rfl rfl fun key => ?_
      have slot : service.tracker.snapshot.inflight = [] := List.isEmpty_iff.mp empty
      change service.tracker.snapshot.pending key = 0
      unfold Tracker.pending
      rw [slot]
      rfl
  · generalize service.beginFlush.stampAll _ _ _ = records
    rcases service.beginFlush.endFlush_cases trigger records with ⟨_, ended, tracker, store, clock⟩ |
      ⟨_, ended, tracker, store, clock⟩
    · rw [← Prod.mk.eta (p := service.beginFlush.endFlush trigger records), ended]
      refine .landed _ _ clock (by rw [store]; rfl) fun key => ?_
      rw [tracker]
      rfl
    · rw [← Prod.mk.eta (p := service.beginFlush.endFlush trigger records), ended]
      refine .refused _ clock store fun key => ?_
      rw [tracker]
      exact (Tracker.pending_requeue (Tracker.wellFormed_snapshot wellFormed) key).trans
        (Tracker.pending_snapshot wellFormed key)

namespace Http

structure AsksUsage (request : Request) (tenant : Uuid) : Prop where
  method : request.method = "GET"
  path : ∃ part, Resource.ofPath? request.path = some (.ofTenant part .usage) ∧
    (decodePart? part).bind Uuid.parse? = some tenant

theorem AsksUsage.answer_eq {request : Request} {tenant : Uuid} (asks : AsksUsage request tenant)
    (site : Site) : answer site request =
      answering (usageOverview site tenant) fun overview => .json 200 overview.toJson := by
  obtain ⟨method, part, path, names⟩ := asks
  have known : (Resource.ofTenant part .usage).methods.contains "GET" = true := rfl
  have posted : ("GET" = "POST") = False := by decide
  simp only [answer, path, method, known, if_true, serve, names, ofTenant, posted, decide_false,
    Bool.false_eq_true, if_false]

/-- The flush failed. Nothing is stored that was not before, and all that was pending is pending. -/
structure Refused (before after : Service) (result : Except Fault UsageOverview) : Prop where
  result : result = .error Store.Method.insertUsage.outage
  store : after.store = before.store
  pending : ∀ key, after.tracker.pending key = before.tracker.pending key

/-- The totals are those of the present period, the limits go with them metric by metric, and nothing is
pending. -/
structure Settled (tenant : Uuid) (now : Instant) (after : Service) (overview : UsageOverview) :
    Prop where
  own : overview.tenant = tenant
  period : overview.usage.period.contains now = true
  limits : overview.limits.map (fun check => (check.metric, check.currentUsage)) =
    Metric.all.map fun metric => (metric.name, overview.usage.get metric)
  totals : ∀ metric, overview.usage.get metric =
    min (after.store.storedAt ⟨tenant, metric⟩ now) greatest
  pending : ∀ key, after.tracker.pending key = 0

theorem settled_of_run {service after : Service} {result : Except Fault UsageOverview} {site : Site}
    {tenant : Uuid} (run : (usageOverview site tenant).outcome.run service = (result, after))
    (wellFormed : service.tracker.WellFormed) (up : service.store.Up)
    (before : service.clock.BeforeLastMonth)
    (nonneg : ∀ metric, ∀ amount ∈ after.store.quantitiesAt tenant metric service.clock, 0 ≤ amount) :
    Refused service after result ∨
      ∃ overview, result = .ok overview ∧ Settled tenant service.clock after overview := by
  have flushed := Service.flush_flushed wellFormed .manual
  generalize ends : service.flush .manual = ended at flushed
  cases flushed with
  | refused restored clock store pending =>
      have failed : (usageOverview site tenant).outcome.run service =
          (.error Store.Method.insertUsage.outage, restored) := by
        have flushes : (orFail (perform .flush)).outcome.run service = (.error _, restored) := ends
        rw [usageOverview, Attempt.run_bind, UsageTotals.current, Attempt.run_bind, flushes]
      obtain ⟨rfl, rfl⟩ := Prod.mk.inj (failed.symm.trans run)
      exact .inl ⟨rfl, store, pending⟩
  | landed report flushed clock outages empty =>
      have works := Store.up_of_outages outages up
      obtain ⟨totals, read, period, amounts⟩ := UsageTotals.run_current tenant ends works
      obtain ⟨checks, ended, checked, keeps, shown⟩ := run_checkAll works site.catalog tenant
      have told : (usageOverview site tenant).outcome.run service =
          (.ok ⟨tenant, totals, checks⟩, ended) := by
        rw [usageOverview, Attempt.run_bind, read]
        dsimp only
        rw [Attempt.run_bind, checked]
        rfl
      obtain ⟨rfl, rfl⟩ := Prod.mk.inj (told.symm.trans run)
      have counted : ∀ metric, flushed.countedUsage ⟨tenant, metric⟩ = totals.get metric := by
        intro metric
        rw [Service.countedUsage, empty, amounts]
        exact add_zero_right (sum_inRange _)
      refine .inr ⟨_, rfl, rfl, ?_, ?_, fun metric => ?_, fun key => ?_⟩
      · rw [period, clock]
        exact Service.periodAt_contains _ _ before
      · simpa only [counted] using shown
      · rw [amounts, clock, ← keeps.quantitiesAt]
        exact sum_of_nonneg _ (nonneg metric)
      · rw [keeps.tracker, empty]

def overviewAnswer : Except Fault UsageOverview → Answer
  | .ok overview => .json 200 overview.toJson
  | .error fault => .ofFault fault

theorem run_respond {request : Request} {tenant : Uuid} (asks : AsksUsage request tenant) (site : Site)
    (service : Service) : ∃ ids requestId result after,
    (usageOverview site tenant).outcome.run { service with ids } = (result, after) ∧
    let answered := overviewAnswer result
    (respond site request).run service =
      (⟨answered.status, answered.content.type?, answered.content, answered.allow, requestId⟩, after) := by
  have answers : ∀ present : Service, (answer site request).run present =
      (overviewAnswer ((usageOverview site tenant).outcome.run present).1,
        ((usageOverview site tenant).outcome.run present).2) := by
    intro present
    rw [asks.answer_eq, answering, Program.run_bind]
    rcases (usageOverview site tenant).outcome.run present with ⟨fault | overview, after⟩ <;> rfl
  have sent : ("GET" = "HEAD") = False := by decide
  unfold respond requestId
  simp only [Program.run_bind, asks.method, sent, if_false, answers]
  cases givenId? request with
  | some id => exact ⟨service.ids, id, _, _, rfl, rfl⟩
  | none => exact ⟨service.ids.draw.2, _, _, _, rfl, rfl⟩

/-- A request for the usage of a tenant, answered while nothing else happens. It ends with a failed flush
that changes neither what is stored nor what is pending, or tells the totals of a period that holds the
present moment. Then the totals are what is stored for the present moment, cut off at the greatest
amount, the limits show the same, and nothing is pending for anybody. Unless a flush is under way, or
waits for one, it does end. -/
theorem usage_settled {tenant : Uuid} (site : Site) {request : Request}
    (asks : AsksUsage request tenant) (start : Traffic Response) (fresh : start.pipeline.Fresh)
    (earlier : List (Traffic.Step Response)) (call : Nat)
    (begun : (start.run earlier).calls call = some (.ready (respond site request)))
    (apart : ∀ job ∈ (start.run earlier).pipeline.jobs, job.flusher ≠ .caller call)
    (up : (start.run earlier).pipeline.service.store.Up)
    (representable : (start.run earlier).pipeline.service.clock.BeforeLastMonth) :
    let reached := start.run earlier
    (reached.pipeline.jobs = [] → reached.Returns call) ∧
    ∀ steps, reached.ownsAll call steps = true → (reached.run steps).calls call = none →
      let before := reached.pipeline.service
      let after := (reached.run steps).pipeline.service
      ∃ result response, (reached.run steps).returned = reached.returned ++ [(call, response)] ∧
        response.status = (overviewAnswer result).status ∧
        response.body = (overviewAnswer result).content ∧
        (Refused before after result ∨
          ∃ overview, result = .ok overview ∧ Settled tenant before.clock after overview) := by
  intro reached
  obtain ⟨returns, alone⟩ := Traffic.returns_alone begun apart
  refine ⟨returns, fun steps own gone => ?_⟩
  obtain ⟨told, service⟩ := alone steps own gone
  obtain ⟨ids, requestId, result, ended, run, responds⟩ := run_respond asks site reached.pipeline.service
  rw [responds] at told service
  have books := (Traffic.balanced_run fresh earlier).service
  have later := (Traffic.balanced_run fresh (earlier ++ steps)).service
  rw [Traffic.run, List.foldl_append] at later
  refine ⟨result, _, told, rfl, rfl, ?_⟩
  obtain rfl : (reached.run steps).pipeline.service = ended := service
  rcases settled_of_run run ⟨books.live, books.inflight⟩ up representable fun metric =>
    later.quantitiesAt_nonneg ⟨tenant, metric⟩ _ with refused | settled
  · exact .inl ⟨refused.result, refused.store, refused.pending⟩
  · exact .inr settled

def askedForUsage : List (Traffic.Step Response) :=
  [.around (.event (.track ⟨⟨1⟩, .testRuns⟩ 5)), .around (.event (.track ⟨⟨2⟩, .aiTokens⟩ 3)),
    .begin (respond {} usageRequest)]

def answeringSteps : List (Traffic.Step Response) :=
  [.proceed 0, .proceed 0] ++ List.replicate 5 (.around (.event .work)) ++
    List.replicate 22 (.proceed 0)

theorem usage_settled_twoTenants :
    let reached : Traffic Response := (Traffic.started ⟨1700000000, 0⟩).run askedForUsage
    let after := (reached.run answeringSteps).pipeline.service
    AsksUsage usageRequest ⟨1⟩ ∧ reached.ownsAll 0 answeringSteps = true ∧
      reached.pipeline.service.tracker.pending ⟨⟨1⟩, .testRuns⟩ = 5 ∧
      ∃ overview, Settled ⟨1⟩ ⟨1700000000, 0⟩ after overview ∧ overview.usage.testRuns = 5 := by
  dsimp only
  have asks : AsksUsage usageRequest ⟨1⟩ := ⟨rfl, "00000000-0000-0000-0000-000000000001".toList,
    by decide +kernel, by decide +kernel⟩
  have fresh : (Traffic.started (β := Response) ⟨1700000000, 0⟩).pipeline.Fresh :=
    Traffic.started_fresh _
  have up : ((Traffic.started (β := Response) ⟨1700000000, 0⟩).run
      askedForUsage).pipeline.service.store.Up := fun method _ => rfl
  obtain ⟨_, answers⟩ := usage_settled {} asks _ fresh askedForUsage 0 rfl (by decide +kernel) up
    (by decide +kernel)
  have own : ((Traffic.started (β := Response) ⟨1700000000, 0⟩).run askedForUsage).ownsAll 0
      answeringSteps = true := by decide +kernel
  have gone := Option.isNone_iff_eq_none.mp (by decide +kernel :
    ((((Traffic.started (β := Response) ⟨1700000000, 0⟩).run askedForUsage).run
      answeringSteps).calls 0).isNone = true)
  obtain ⟨result, response, _, _, _, refused | ⟨overview, _, settled⟩⟩ :=
    answers answeringSteps own gone
  · exact absurd (congrArg (·.usage.length) refused.store) (by decide +kernel)
  · refine ⟨asks, own, by decide +kernel, overview, settled, ?_⟩
    exact (settled.totals .testRuns).trans (by decide +kernel)

end Http

end UsageBilling
