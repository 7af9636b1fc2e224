import UsageBilling.Proofs.Subscription.Identity
import UsageBilling.Proofs.Subscription.Ownership
/-!
First accesses at the same time. Requests that find no row for their tenant each offer one, and between
the read and the offer of one request anything may be done to the row that another one has offered. The
invariant: whatever a request has been answered with is a stored row at an earlier time, and it returns
nothing but what it has been answered with.
-/
namespace UsageBilling

namespace Pool.Request

def row? : (request : Pool.Request) → request.Result → Option Subscription
  | get _ | createCustomer .. | subscribe .. | changePlan .. | cancel .. => Except.toOption
  | portalUrl .. | checkoutUrl .. | upcomingInvoice _ | listInvoices .. | checkUsageLimit ..
  | hasFeature .. | sync _ | event _ => fun _ => none

def May : Pool.Request → Action → Prop
  | get _ => Action.IsGentle
  | _ => fun _ => True

/-- A row that the request returns is the one of its tenant, which it has been answered with. -/
def ReturnsAnswered (request : Pool.Request) (result : request.Result) (trace : List Performed) : Prop :=
  ∀ row, request.row? result = some row → ∃ tenant, request.tenant? = some tenant ∧
    Answered tenant row trace

theorem returnsAnswered (catalog : Catalog) (request : Pool.Request) :
    (request.program catalog).Obeys (replyRules request.May) [] request.ReturnsAnswered := by
  -- For each of the five requests that return a row; the result of the others is no row.
  have ends : ∀ {tenant : Uuid} {may : Action → Prop} {attempt : Attempt Subscription},
      attempt.Obeys (replyRules may) [] (Answered tenant) →
      attempt.outcome.Obeys (replyRules may) [] fun result trace =>
        ∀ row, result.toOption = some row → ∃ other, some tenant = some other ∧
          Answered other row trace := by
    intro tenant may attempt answered
    refine Program.Obeys.mono answered fun result trace answered row present => ?_
    cases result with
    | error fault => cases present
    | ok value => exact ⟨tenant, rfl, answered row (congrArg Except.ok (Option.some.inj present))⟩
  cases request with
  | get tenant => exact ends (Lifecycle.answered_get fun _ gentle => gentle)
  | createCustomer tenant email name => exact ends (Lifecycle.answered_createCustomer tenant email name)
  | subscribe tenant planName paymentMethod =>
      exact ends (Lifecycle.answered_subscribe catalog tenant planName paymentMethod)
  | changePlan tenant planName => exact ends (Lifecycle.answered_changePlan catalog tenant planName)
  | cancel tenant immediate => exact ends (Lifecycle.answered_cancel catalog tenant immediate)
  | _ => exact (Program.obeys_any _ []).mono fun _ _ _ _ present => nomatch present

end Pool.Request

theorem Service.mem_of_answers (service : Service) (answers : Provider.Answers) (action : Action)
    {tenant : Uuid} {row : Subscription}
    (told : Performed.Answers tenant row ⟨action, (service.act answers action).1⟩) :
    row ∈ (service.act answers action).2.store.subscriptions ∧ row.tenant = tenant := by
  cases action with
  | findByTenant asked =>
      obtain ⟨rfl, found⟩ := told
      exact Store.mem_of_findByTenant found
  | insertIfAbsent fresh =>
      obtain ⟨rfl, inserted⟩ := told
      exact Store.mem_of_insertIfAbsent inserted
  | setProviderCustomer asked customerId =>
      obtain ⟨rfl, written⟩ := told
      exact Store.mem_of_update (fun row => rfl) written
  | applySnapshot asked snapshot =>
      obtain ⟨rfl, written⟩ := told
      exact Store.mem_of_update (fun row => snapshot.tenant_apply row service.clock) written
  | markCanceled asked =>
      obtain ⟨rfl, written⟩ := told
      exact Store.mem_of_update (fun row => rfl) written
  | _ => exact told.elim

namespace Pool

def rows (pool : Pool) : List Subscription := pool.service.store.subscriptions

def returns? (pool : Pool) : Step → Option (Request × Subscription)
  | .proceed place _ => do
    let running ← pool.running[place]?
    match running.left with
    | .done result => (running.request.row? result).map fun row => (running.request, row)
    | .step .. => none
  | _ => none

def returned (catalog : Catalog) : Pool → List Step → List (Request × Subscription)
  | _, [] => []
  | pool, step :: steps => (pool.returns? step).toList ++ returned catalog (pool.step catalog step) steps

def StandsFor (rows : List Subscription) (request : Request) (row : Subscription) : Prop :=
  ∃ tenant, request.tenant? = some tenant ∧ Stands rows tenant row

/-- What a request has been answered with is there, and it will return nothing else. -/
def Rooted (rows : List Subscription) (running : Running) : Prop :=
  ∃ trace, (∀ tenant row, Answered tenant row trace → Stands rows tenant row) ∧
    running.left.Obeys (replyRules running.request.May) trace running.request.ReturnsAnswered

/-- The invariant of a pool that has returned these rows. -/
structure StandsBy (past : List (Request × Subscription)) (pool : Pool) : Prop where
  oneEach : Store.OneEach pool.rows
  returned : ∀ request row, (request, row) ∈ past → StandsFor pool.rows request row
  running : ∀ running ∈ pool.running, Rooted pool.rows running

section

variable {catalog : Catalog} {pool : Pool} {past : List (Request × Subscription)}
  {before after : List Subscription}

theorem StandsFor.keeps {request : Request} {row : Subscription} (stands : StandsFor before request row)
    (kept : KeepsIdentities before after) : StandsFor after request row := by
  obtain ⟨tenant, own, stands⟩ := stands
  exact ⟨tenant, own, stands.keeps kept⟩

theorem Rooted.keeps {running : Running} (rooted : Rooted before running)
    (kept : KeepsIdentities before after) : Rooted after running := by
  obtain ⟨trace, answered, obeys⟩ := rooted
  exact ⟨trace, fun tenant row told => (answered tenant row told).keeps kept, obeys⟩

theorem act_standsBy (stands : pool.StandsBy past) (place : Nat) (answers : Provider.Answers)
    {running : Running} {action : Action} {next : action.Reply → Program running.request.Result}
    (member : running ∈ pool.running) (left : running.left = .step action next) :
    (pool.advance place answers running).StandsBy past ∧
      KeepsIdentities pool.rows (pool.advance place answers running).rows := by
  have rowsAfter := pool.service.act_rows answers action
  have kept : KeepsIdentities pool.rows (pool.service.act answers action).2.store.subscriptions :=
    rowsAfter.keepsIdentities stands.oneEach
  obtain ⟨trace, answered, obeys⟩ := stands.running running member
  rw [left] at obeys
  unfold advance
  rw [left]
  refine ⟨⟨rowsAfter.oneEach stands.oneEach, ?_, fun other present => ?_⟩, kept⟩
  · exact fun request row returned => (stands.returned request row returned).keeps kept
  · rcases List.mem_or_eq_of_mem_set present with waiting | rfl
    · exact (stands.running other waiting).keeps kept
    -- The request has been answered once more; what it was told before still stands.
    · refine ⟨_, fun tenant row told => ?_, obeys.2 _⟩
      obtain ⟨performed, present, tells⟩ := told
      rcases List.mem_append.mp present with earlier | last
      · exact (answered tenant row ⟨performed, earlier, tells⟩).keeps kept
      · rw [List.mem_singleton.mp last] at tells
        obtain ⟨there, own⟩ := pool.service.mem_of_answers answers action tells
        exact ⟨row, there, own, .refl row⟩

theorem return_standsBy (stands : pool.StandsBy past) (place : Nat) (answers : Provider.Answers)
    {running : Running} {result : running.request.Result} (member : running ∈ pool.running)
    (left : running.left = .done result) :
    (pool.advance place answers running).StandsBy
        (past ++ ((running.request.row? result).map fun row => (running.request, row)).toList) ∧
      KeepsIdentities pool.rows (pool.advance place answers running).rows := by
  obtain ⟨trace, answered, ends⟩ := stands.running running member
  rw [left] at ends
  unfold advance
  rw [left]
  refine ⟨⟨stands.oneEach, fun request row returned => ?_, fun other remains => ?_⟩, .refl _⟩
  · rcases List.mem_append.mp returned with earlier | last
    · exact stands.returned request row earlier
    · obtain ⟨value, present, same⟩ := Option.map_eq_some_iff.mp (Option.mem_toList.mp last)
      obtain ⟨rfl, rfl⟩ := Prod.mk.inj same
      obtain ⟨tenant, own, told⟩ := ends value present
      exact ⟨tenant, own, answered tenant value told⟩
  · exact stands.running other (List.mem_of_mem_eraseIdx remains)

theorem step_standsBy (stands : pool.StandsBy past) (step : Step) :
    (pool.step catalog step).StandsBy (past ++ (pool.returns? step).toList) ∧
      KeepsIdentities pool.rows (pool.step catalog step).rows := by
  cases step with
  | begin request =>
      have begun : (pool.step catalog (.begin request)).StandsBy past := by
        refine ⟨stands.oneEach, stands.returned, fun running member => ?_⟩
        rcases List.mem_append.mp member with earlier | last
        · exact stands.running running earlier
        · rw [List.mem_singleton.mp last]
          exact ⟨[], by simp [Answered], request.returnsAnswered catalog⟩
      exact ⟨by simpa [returns?] using begun, .refl _⟩
  | proceed place answers =>
      simp only [returns?, Pool.step]
      cases found : pool.running[place]? with
      | none => exact ⟨by simpa using stands, .refl _⟩
      | some running =>
          have member := List.mem_of_getElem? found
          cases left : running.left with
          | step action next => simpa [left] using act_standsBy stands place answers member left
          | done result => simpa [left] using return_standsBy stands place answers member left
  | drop place =>
      have dropped : (pool.step catalog (.drop place)).StandsBy past :=
        ⟨stands.oneEach, stands.returned, fun running remains =>
          stands.running running (List.mem_of_mem_eraseIdx remains)⟩
      exact ⟨by simpa [returns?] using dropped, .refl _⟩
  | clock now =>
      have set : (pool.step catalog (.clock now)).StandsBy past :=
        ⟨stands.oneEach, stands.returned, stands.running⟩
      exact ⟨by simpa [returns?] using set, .refl _⟩
  | switch method down =>
      have switched : (pool.step catalog (.switch method down)).StandsBy past :=
        ⟨stands.oneEach, stands.returned, stands.running⟩
      exact ⟨by simpa [returns?] using switched, .refl _⟩

theorem run_standsBy (stands : pool.StandsBy past) (steps : List Step) :
    (pool.run catalog steps).StandsBy (past ++ returned catalog pool steps) ∧
      KeepsIdentities pool.rows (pool.run catalog steps).rows := by
  induction steps generalizing pool past with
  | nil =>
      rw [returned, List.append_nil]
      exact ⟨stands, .refl _⟩
  | cons step steps ih =>
      rw [returned, ← List.append_assoc]
      obtain ⟨next, first⟩ := step_standsBy stands step
      obtain ⟨last, rest⟩ := ih next
      exact ⟨last, first.trans rest⟩

end

/-- What the next step of a request leaves alone. A request that only gets a row writes over none, and
a row that is offered for a tenant that has one by then changes nothing: the answer is the row that is
there. -/
structure Respects (catalog : Catalog) (pool : Pool) (place : Nat) (answers : Provider.Answers) : Prop where
  gets : ∀ tenant running, pool.running[place]? = some running → running.request = .get tenant →
    pool.rows <+: (pool.step catalog (.proceed place answers)).rows
  offers : ∀ request fresh reply present,
    pool.performed (.proceed place answers) = some (request, ⟨.insertIfAbsent fresh, reply⟩) →
    present ∈ pool.rows → present.tenant = fresh.tenant →
    (pool.step catalog (.proceed place answers)).rows = pool.rows ∧
      ∀ row, reply = .ok row → row = present

theorem StandsBy.respects {pool : Pool} {past : List (Request × Subscription)}
    (stands : pool.StandsBy past) (catalog : Catalog) (place : Nat) (answers : Provider.Answers) :
    pool.Respects catalog place answers where
  gets := by
    intro tenant running found gets
    have member := List.mem_of_getElem? found
    obtain ⟨trace, _, obeys⟩ := stands.running running member
    simp only [Pool.step, found, advance]
    cases left : running.left with
    | done result => exact List.prefix_refl _
    | step action next =>
        rw [left] at obeys
        have gentle : running.request.May action := obeys.1
        rw [gets] at gentle
        exact (pool.service.act_rows answers action).isPrefix_of_isGentle gentle
  offers := by
    intro request fresh reply present performs member own
    simp only [performed, Pool.step] at performs ⊢
    cases found : pool.running[place]? with
    | none => simp [found] at performs
    | some running =>
        simp only [found, Option.bind_eq_bind, Option.bind_some] at performs ⊢
        unfold advance
        cases left : running.left with
        | done result => simp [left] at performs
        | step action next =>
            simp only [left, Option.some.injEq, Prod.mk.injEq, Performed.mk.injEq] at performs
            obtain ⟨_, rfl, replied⟩ := performs
            have same : (pool.service.store.insertIfAbsent fresh).2.subscriptions = pool.rows :=
              (pool.service.act_rows answers (.insertIfAbsent fresh)).eq_of_present member own
            refine ⟨same, ?_⟩
            rintro row rfl
            obtain ⟨there, theirs⟩ := Store.mem_of_insertIfAbsent (eq_of_heq replied)
            rw [same] at there
            exact stands.oneEach.eq there member (theirs.trans own.symm)

/-- However requests interleave, no row is ever removed, and none gets another id or tenant, other
metadata, or another time of creation or anchor of its periods. All requests that return the row of one
tenant return the same row, which is the one that is stored, at different times. A request that only gets
a row writes over none, and whoever offers a row too late is answered with the one that is there by then,
and changes nothing. -/
theorem identities_kept (catalog : Catalog) (start : Pool) (oneEach : Store.OneEach start.rows)
    (idle : start.running = []) (earlier later : List Step) :
    let before := start.run catalog earlier
    let after := start.run catalog (earlier ++ later)
    let results := returned catalog start (earlier ++ later)
    Store.OneEach after.rows ∧ KeepsIdentities before.rows after.rows ∧
    (∀ request row, (request, row) ∈ results → ∃ stored ∈ after.rows,
      request.tenant? = some stored.tenant ∧ row.SameIdentity stored) ∧
    (∀ first row second other, (first, row) ∈ results → (second, other) ∈ results →
      first.tenant? = second.tenant? → other.id = row.id ∧ other.createdAt = row.createdAt) ∧
    ∀ place answers, before.Respects catalog place answers := by
  intro before after results
  have begins : start.StandsBy [] := ⟨oneEach, by simp, by simp [idle]⟩
  have stands : before.StandsBy ([] ++ returned catalog start earlier) := (run_standsBy begins earlier).1
  have whole : after.StandsBy ([] ++ results) := (run_standsBy begins (earlier ++ later)).1
  obtain ⟨_, kept⟩ := run_standsBy stands later
  rw [List.nil_append] at whole
  refine ⟨whole.oneEach, ?_, fun request row member => ?_, ?_, stands.respects catalog⟩
  · simpa only [before, after, run, List.foldl_append] using kept
  · obtain ⟨tenant, own, stored, present, rfl, same⟩ := whole.returned request row member
    exact ⟨stored, present, own, same⟩
  · intro first row second other member also equal
    obtain ⟨tenant, own, stands⟩ := whole.returned first row member
    obtain ⟨_, theirs, standing⟩ := whole.returned second other also
    obtain rfl := Option.some.inj (own.symm.trans (equal.trans theirs))
    have same := stands.sameIdentity whole.oneEach standing
    exact ⟨same.id, same.createdAt⟩

def quickOffer : List Step :=
  [.begin (.get ⟨7⟩), .begin (.get ⟨7⟩)] ++ List.replicate 3 (.proceed 0 namingAnswers) ++
    List.replicate 3 (.proceed 1 namingAnswers) ++ List.replicate 3 (.proceed 0 namingAnswers) ++
  [.clock ⟨1700000060, 0⟩, .begin (.createCustomer ⟨7⟩ "a@acme.test" "acme"), .begin (.cancel ⟨7⟩ true)] ++
    List.replicate 9 (.proceed 1 namingAnswers)

def lateOffer : List Step := List.replicate 3 (.proceed 0 namingAnswers)

theorem identities_kept_lateOffer :
    let catalog : Catalog := ⟨some "price_pro", none⟩
    let start := started ⟨1700000000, 0⟩
    let results := returned catalog start (quickOffer ++ lateOffer)
    Store.OneEach start.rows ∧ start.running = [] ∧
    results.map (fun entry => (entry.1.tenant?, entry.2.customerId, entry.2.status)) =
      [(some ⟨7⟩, none, "active"), (some ⟨7⟩, some "acme", "active"), (some ⟨7⟩, some "acme", "canceled"),
       (some ⟨7⟩, some "acme", "canceled")] ∧
    (start.run catalog (quickOffer ++ lateOffer)).rows = (start.run catalog quickOffer).rows ∧
    ∀ first row second other, (first, row) ∈ results → (second, other) ∈ results →
      first.tenant? = second.tenant? → other.id = row.id ∧ other.createdAt = row.createdAt := by
  intro catalog start results
  have oneEach : Store.OneEach start.rows := List.nodup_nil
  obtain ⟨_, _, _, agree, _⟩ := identities_kept catalog start oneEach rfl quickOffer lateOffer
  exact ⟨oneEach, rfl, by decide +kernel, by decide +kernel, agree⟩

end Pool

end UsageBilling
