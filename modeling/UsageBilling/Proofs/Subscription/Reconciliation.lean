import Mathlib.Data.List.Find
import UsageBilling.Proofs.Service.Pool
import UsageBilling.Proofs.Store.Syncing
import UsageBilling.Proofs.Subscription.Enrollment
import UsageBilling.Proofs.Subscription.Operations
/-!
Synchronisations of one subscription while it changes at the provider. Each of them first fetches the
subscription and then stores what it has fetched; between the two others may fetch and store, and the
subscription may change. The row is what the last of them to store had fetched.
-/
namespace UsageBilling

structure Reconciliation where
  service : Service
  /-- The subscription as the provider has it. -/
  remote : Provider.RemoteSubscription
  /-- What is left of the calls, in the order in which they began. -/
  calls : List Running := []

inductive Pool.Request.Syncs (providerId : String) : Pool.Request → Prop
  | sync : Syncs providerId (.sync providerId)
  | event (received : Webhook.Event) (asks : received.Asks providerId) :
      Syncs providerId (.event received)

def Performed.stored? : Performed → Option Snapshot
  | ⟨.syncSnapshot snapshot, .ok _⟩ => some snapshot
  | _ => none

theorem Performed.of_stored? {performed : Performed} {snapshot : Snapshot}
    (stored : performed.stored? = some snapshot) :
    ∃ outcome, performed = ⟨.syncSnapshot snapshot, .ok outcome⟩ := by
  unfold stored? at stored
  split at stored
  · cases stored
    exact ⟨_, rfl⟩
  · cases stored

/-- What a synchronisation of this subscription is allowed: to fetch it first, and then to store what
has been fetched. -/
def syncRules (catalog : Catalog) (providerId : String) : Rules (List Performed) where
  allows trace
    | .ask call => trace = [] ∧ call = .getSubscription providerId
    | .syncSnapshot snapshot => ∃ remote, snapshot = .ofRemote remote (catalog.planOf remote) ∧
        ⟨.ask (.getSubscription providerId), .ok remote⟩ ∈ trace
    | .count _ => True
    | _ => False
  learn trace action reply := trace ++ [⟨action, reply⟩]

def Settled (request : Pool.Request) (result : request.Result) (trace : List Performed) : Prop :=
  request.fault? result = none → ∃ performed ∈ trace, performed.stored?.isSome

section

variable {catalog : Catalog} {providerId : String}

theorem obeys_sync : (Lifecycle.sync catalog providerId).outcome.Obeys (syncRules catalog providerId) []
    (Settled (.sync providerId)) := by
  rw [Webhook.sync_steps]
  refine ⟨⟨rfl, rfl⟩, fun reply => ?_⟩
  cases reply with
  | error error => exact ⟨trivial, fun _ failed => nomatch failed⟩
  | ok remote =>
      refine ⟨⟨remote, rfl, by simp [syncRules]⟩, fun reply => ?_⟩
      cases reply with
      | error fault => exact fun failed => nomatch failed
      | ok outcome =>
          refine ⟨trivial, fun _ _ => ?_⟩
          exact ⟨⟨.syncSnapshot (.ofRemote remote (catalog.planOf remote)), .ok outcome⟩,
            by simp [syncRules], rfl⟩

theorem Pool.Request.Syncs.obeys {request : Pool.Request} (syncs : request.Syncs providerId) :
    (request.program catalog).Obeys (syncRules catalog providerId) [] (Settled request) := by
  cases syncs with
  | sync => exact obeys_sync
  | event received asks =>
      change Program.Obeys _ (ExceptT.run (Webhook.dispatch catalog received)) _ _
      unfold Webhook.dispatch
      rw [Webhook.ofType_eq_sync_iff.mpr asks.1, Webhook.subscriptionId?_eq_some_iff.mpr asks.2]
      apply Program.obeys_bind
      apply Program.obeys_bind
      refine Program.Obeys.mono obeys_sync fun result trace settled => ?_
      cases result with
      | ok outcome => exact fun _ => settled rfl
      | error fault => exact fun failed => nomatch failed

end

namespace Store

structure Links (store : Store) (tenant : Uuid) (providerId : String) (row : Subscription) : Prop where
  oneEach : OneEach store.subscriptions
  own : row.tenant = tenant
  linked : store.linkedRow? providerId = some row

variable {store : Store} {tenant : Uuid} {providerId : String} {row : Subscription}

theorem linkedRow?_map {change : Subscription → Subscription}
    (alike : ∀ row ∈ store.subscriptions, (change row).providerId = row.providerId) :
    linkedRow? { store with subscriptions := store.subscriptions.map change } providerId =
      (store.linkedRow? providerId).map change := by
  unfold linkedRow?
  rw [List.find?_map]
  congr 1
  refine List.find?_congr fun row member => ?_
  rw [Function.comp_apply, alike row member]

theorem Links.replaced {snapshot : Snapshot} (links : store.Links tenant snapshot.providerId row)
    (now : Instant) : Links
      { store with subscriptions := store.subscriptions.map (replacedBy (snapshot.apply row now)) }
      tenant snapshot.providerId (snapshot.apply row now) := by
  obtain ⟨member, linked⟩ := mem_of_linkedRow? links.linked
  have alike : ∀ other ∈ store.subscriptions,
      (replacedBy (snapshot.apply row now) other).providerId = other.providerId := by
    intro other present
    unfold replacedBy
    split
    · next same =>
        obtain rfl := links.oneEach.eq present member (same.trans (snapshot.tenant_apply row now))
        exact (snapshot.agrees_apply other now).providerId.trans linked.symm
    · rfl
  refine ⟨oneEach_map_replacedBy links.oneEach _, (snapshot.tenant_apply row now).trans links.own, ?_⟩
  rw [linkedRow?_map alike, links.linked, Option.map_some, replacedBy,
    if_pos (snapshot.tenant_apply row now).symm]

/-- Either nothing is stored, or the row takes over the snapshot. -/
theorem Links.syncSnapshot {snapshot : Snapshot} (links : store.Links tenant snapshot.providerId row)
    (now : Instant) :
    (∃ fault, store.syncSnapshot snapshot now = (.error fault, store)) ∨
    ∃ outcome after, store.syncSnapshot snapshot now = (.ok outcome, after) ∧
      after.Links tenant snapshot.providerId (snapshot.apply row now) := by
  cases down : store.isDown .syncSnapshot with
  | true => exact .inl ⟨_, guarded_error down _⟩
  | false =>
      exact .inr ⟨_, _, syncSnapshot_of_found links.oneEach down links.linked, links.replaced now⟩

end Store

namespace History

def stores (history : History) : List (Nat × Snapshot) :=
  history.filterMap fun entry => entry.2.stored?.map (entry.1, ·)

def lastStore? (history : History) : Option (Nat × Snapshot) := history.stores.getLast?

variable {history past : History} {call : Nat} {performed : Performed} {snapshot : Snapshot}

theorem lastStore?_concat_of_none (idle : performed.stored? = none) :
    lastStore? (past ++ [(call, performed)]) = lastStore? past := by
  simp [lastStore?, stores, idle]

theorem lastStore?_concat_of_some (stored : performed.stored? = some snapshot) :
    lastStore? (past ++ [(call, performed)]) = some (call, snapshot) := by
  simp [lastStore?, stores, stored]

theorem mem_stores : (call, snapshot) ∈ stores history ↔
    ∃ outcome, (call, ⟨.syncSnapshot snapshot, .ok outcome⟩) ∈ history := by
  unfold stores
  rw [List.mem_filterMap]
  constructor
  · rintro ⟨⟨other, performed⟩, member, stored⟩
    obtain ⟨written, told, same⟩ := Option.map_eq_some_iff.mp stored
    obtain ⟨rfl, rfl⟩ := Prod.mk.inj same
    obtain ⟨outcome, rfl⟩ := Performed.of_stored? told
    exact ⟨outcome, member⟩
  · rintro ⟨outcome, member⟩
    exact ⟨_, member, rfl⟩

/-- Each call fetches the subscription once, and stores only what it has fetched. -/
structure FetchesFirst (catalog : Catalog) (providerId : String) (history : History) : Prop where
  named : ∀ call remote, (call, ⟨.ask (.getSubscription providerId), .ok remote⟩) ∈ history →
    remote.id = providerId
  told : ∀ call snapshot reply, (call, ⟨.syncSnapshot snapshot, reply⟩) ∈ history →
    ∃ remote, snapshot = .ofRemote remote (catalog.planOf remote) ∧
      (call, ⟨.ask (.getSubscription providerId), .ok remote⟩) ∈ history
  once : ∀ call first second, (call, first) ∈ history → (call, second) ∈ history → first.Asks →
    second.Asks → first = second

theorem fresh_of_asks {catalog : Catalog} {providerId : String} {trace : List Performed}
    (allowed : (syncRules catalog providerId).allows trace performed.action) (asks : performed.Asks) :
    trace = [] := by
  obtain ⟨action, reply⟩ := performed
  cases action with
  | ask call => exact allowed.1
  | _ => exact asks.elim

theorem FetchesFirst.concat {catalog : Catalog} {providerId : String}
    (fetches : FetchesFirst catalog providerId past)
    (allowed : (syncRules catalog providerId).allows (past.own call) performed.action)
    (named : ∀ remote, performed = ⟨.ask (.getSubscription providerId), .ok remote⟩ →
      remote.id = providerId) : FetchesFirst catalog providerId (past ++ [(call, performed)]) where
  named := by
    intro other remote member
    rcases List.mem_append.mp member with earlier | last
    · exact fetches.named other remote earlier
    · exact named remote (Prod.mk.inj (List.mem_singleton.mp last)).2.symm
  told := by
    intro other snapshot reply member
    rcases List.mem_append.mp member with earlier | last
    · obtain ⟨remote, told, fetched⟩ := fetches.told other snapshot reply earlier
      exact ⟨remote, told, List.mem_append_left _ fetched⟩
    · obtain ⟨rfl, rfl⟩ := Prod.mk.inj (List.mem_singleton.mp last)
      obtain ⟨remote, told, fetched⟩ := allowed
      exact ⟨remote, told, List.mem_append_left _ (mem_own.mp fetched)⟩
  once := by
    have unasked : ∀ earlier, (call, earlier) ∈ past → ¬ performed.Asks := by
      intro earlier member asks
      have nothing := fresh_of_asks allowed asks
      exact List.not_mem_nil (nothing ▸ mem_own.mpr member)
    intro other first second member also asks again
    rcases List.mem_append.mp member with earlier | last
    · rcases List.mem_append.mp also with before | late
      · exact fetches.once other first second earlier before asks again
      · obtain ⟨rfl, rfl⟩ := Prod.mk.inj (List.mem_singleton.mp late)
        exact absurd again (unasked first earlier)
    · obtain ⟨rfl, rfl⟩ := Prod.mk.inj (List.mem_singleton.mp last)
      rcases List.mem_append.mp also with before | late
      · exact absurd asks (unasked second before)
      · exact (Prod.mk.inj (List.mem_singleton.mp late)).2.symm

end History

namespace Reconciliation

inductive Step where
  | begin (request : Pool.Request)
  /-- A call carries out its next action. What it asks the provider may come to an error. -/
  | proceed (call : Nat) (error : Option Provider.Error)
  /-- The subscription changes at the provider. -/
  | change (remote : Provider.RemoteSubscription)
  | clock (now : Instant)
  | switch (method : Store.Method) (down : Bool)

/-- The provider returns the subscription as it is, or the call ends with an error. -/
def answers (reconciliation : Reconciliation) (error : Option Provider.Error) : Provider.Answers
  | .getSubscription _ =>
    match error with
    | some error => .error error
    | none => .ok reconciliation.remote
  | _ => .error .notConfigured

def next? (reconciliation : Reconciliation) (call : Nat) :
    Option ((request : Pool.Request) × (action : Action) × (action.Reply → Program request.Result)) :=
  match reconciliation.calls[call]? with
  | some ⟨request, .step action next⟩ => some ⟨request, action, next⟩
  | _ => none

def step (catalog : Catalog) (reconciliation : Reconciliation) : Step → Reconciliation
  | .begin request =>
    { reconciliation with calls := reconciliation.calls ++ [⟨request, request.program catalog⟩] }
  | .proceed call error =>
    match reconciliation.next? call with
    | some ⟨request, action, next⟩ =>
      let (reply, service) := reconciliation.service.act (reconciliation.answers error) action
      { reconciliation with service, calls := reconciliation.calls.set call ⟨request, next reply⟩ }
    | none => reconciliation
  | .change remote => { reconciliation with remote }
  | .clock now => { reconciliation with service := { reconciliation.service with clock := now } }
  | .switch method down =>
    { reconciliation with
      service := { reconciliation.service with store := reconciliation.service.store.setOutage method down } }

def performs (reconciliation : Reconciliation) : Step → Option (Nat × Performed)
  | .proceed call error => (reconciliation.next? call).map fun ⟨_, action, _⟩ =>
    (call, ⟨action, (reconciliation.service.act (reconciliation.answers error) action).1⟩)
  | _ => none

def run (catalog : Catalog) (reconciliation : Reconciliation) (steps : List Step) : Reconciliation :=
  steps.foldl (step catalog) reconciliation

def history (catalog : Catalog) : Reconciliation → List Step → History
  | _, [] => []
  | reconciliation, step :: steps =>
    (reconciliation.performs step).toList ++ (reconciliation.step catalog step).history catalog steps

def Step.Concerns (providerId : String) : Step → Prop
  | .begin request => request.Syncs providerId
  | .change remote => remote.id = providerId
  | _ => True

theorem calls_of_next? {reconciliation : Reconciliation} {call : Nat} {request : Pool.Request}
    {action : Action} {next : action.Reply → Program request.Result}
    (held : reconciliation.next? call = some ⟨request, action, next⟩) :
    reconciliation.calls[call]? = some ⟨request, .step action next⟩ := by
  unfold next? at held
  split at held
  · next found =>
      cases held
      exact found
  · cases held

theorem eq_remote_of_answers {reconciliation : Reconciliation} {error : Option Provider.Error}
    {providerId : String} {remote : Provider.RemoteSubscription}
    (answered : reconciliation.answers error (.getSubscription providerId) = .ok remote) :
    remote = reconciliation.remote := by
  cases error with
  | some error => cases answered
  | none =>
      cases answered
      rfl

end Reconciliation

theorem Service.links_act {catalog : Catalog} {tenant : Uuid} {providerId : String}
    {row : Subscription} {trace : List Performed} {action : Action} (service : Service)
    (answers : Provider.Answers) (links : service.store.Links tenant providerId row)
    (allowed : (syncRules catalog providerId).allows trace action)
    (named : ∀ remote, ⟨.ask (.getSubscription providerId), .ok remote⟩ ∈ trace →
      remote.id = providerId) :
    ∃ after, (service.act answers action).2.store.Links tenant providerId after ∧
      (Performed.stored? ⟨action, (service.act answers action).1⟩ = none → after = row) ∧
      ∀ snapshot, Performed.stored? ⟨action, (service.act answers action).1⟩ = some snapshot →
        snapshot.Agrees after := by
  cases action with
  | ask call => exact ⟨row, links, fun _ => rfl, by simp [Performed.stored?]⟩
  | count counter => exact ⟨row, links, fun _ => rfl, by simp [Performed.stored?]⟩
  | syncSnapshot snapshot =>
      obtain ⟨remote, told, fetched⟩ := allowed
      obtain rfl : snapshot.providerId = providerId := told ▸ named remote fetched
      rcases links.syncSnapshot service.clock with ⟨fault, refused⟩ | ⟨outcome, after, copied, next⟩
      · simp only [act, perform, onStore, refused]
        exact ⟨row, links, fun _ => rfl, by simp [Performed.stored?]⟩
      · simp only [act, perform, onStore, copied]
        refine ⟨_, next, by simp [Performed.stored?], fun other stored => ?_⟩
        obtain rfl : snapshot = other := Option.some.inj stored
        exact snapshot.agrees_apply row service.clock
  | _ => exact allowed.elim

namespace Reconciliation

/-- What holds of the calls and of the row, given what the calls have carried out so far. -/
structure Reconciling (catalog : Catalog) (tenant : Uuid) (providerId : String) (past : History)
    (reconciliation : Reconciliation) : Prop where
  named : reconciliation.remote.id = providerId
  row : ∃ row, reconciliation.service.store.Links tenant providerId row ∧
    ∀ call snapshot, past.lastStore? = some (call, snapshot) → snapshot.Agrees row
  begun : ∀ entry ∈ past, entry.1 < reconciliation.calls.length
  calls : ∀ (call : Nat) (running : Running), reconciliation.calls[call]? = some running →
    running.left.Obeys (syncRules catalog providerId) (past.own call) (Settled running.request)
  fetches : past.FetchesFirst catalog providerId

section

variable {catalog : Catalog} {tenant : Uuid} {providerId : String} {past : History}
  {reconciliation : Reconciliation}

theorem Reconciling.proceed (reconciling : Reconciling catalog tenant providerId past reconciliation)
    {call : Nat} {error : Option Provider.Error} {request : Pool.Request} {action : Action}
    {next : action.Reply → Program request.Result}
    (held : reconciliation.next? call = some ⟨request, action, next⟩) :
    Reconciling catalog tenant providerId
      (past ++ (reconciliation.performs (.proceed call error)).toList)
      (reconciliation.step catalog (.proceed call error)) := by
  have found := calls_of_next? held
  obtain ⟨allowed, rest⟩ := reconciling.calls call _ found
  have started : call < reconciliation.calls.length := (List.getElem?_eq_some_iff.mp found).1
  have named : ∀ remote, ⟨.ask (.getSubscription providerId), .ok remote⟩ ∈ past.own call →
      remote.id = providerId :=
    fun remote member => reconciling.fetches.named call remote (History.mem_own.mp member)
  obtain ⟨row, links, agrees⟩ := reconciling.row
  obtain ⟨after, kept, same, takes⟩ := reconciliation.service.links_act
    (reconciliation.answers error) links allowed named
  simp only [performs, step, held, Option.map_some, Option.toList_some]
  -- The row takes over what this action stores, and else agrees with the last store before.
  refine ⟨reconciling.named, ⟨after, kept, fun other snapshot last => ?_⟩, ?_, ?_, ?_⟩
  · cases stored : Performed.stored?
        ⟨action, (reconciliation.service.act (reconciliation.answers error) action).1⟩ with
    | none =>
        rw [History.lastStore?_concat_of_none stored] at last
        rw [same stored]
        exact agrees other snapshot last
    | some written =>
        rw [History.lastStore?_concat_of_some stored] at last
        obtain ⟨rfl, rfl⟩ := Prod.mk.inj (Option.some.inj last)
        exact takes written stored
  · rw [List.length_set]
    exact List.forall_mem_append.mpr ⟨reconciling.begun, List.forall_mem_singleton.mpr started⟩
  · intro other running present
    rw [History.own_concat]
    by_cases own : call = other
    · subst own
      rw [List.getElem?_set_self started] at present
      obtain rfl := Option.some.inj present
      rw [if_pos rfl]
      exact rest _
    · rw [List.getElem?_set_ne own] at present
      rw [if_neg own, List.append_nil]
      exact reconciling.calls other running present
  · refine reconciling.fetches.concat allowed fun remote performed => ?_
    obtain ⟨rfl, answered⟩ := Performed.mk.inj performed
    rw [eq_remote_of_answers (eq_of_heq answered)]
    exact reconciling.named

theorem Reconciling.begin (reconciling : Reconciling catalog tenant providerId past reconciliation)
    {request : Pool.Request} (syncs : request.Syncs providerId) :
    Reconciling catalog tenant providerId past (reconciliation.step catalog (.begin request)) where
  named := reconciling.named
  row := reconciling.row
  begun := by
    intro entry member
    rw [step, List.length_append]
    exact Nat.lt_add_right _ (reconciling.begun entry member)
  calls := by
    intro call running present
    by_cases earlier : call < reconciliation.calls.length
    · rw [step, List.getElem?_append_left earlier] at present
      exact reconciling.calls call running present
    · have fresh : past.own call = [] := History.own_eq_nil fun entry member =>
        (reconciling.begun entry member).trans_le (Nat.le_of_not_lt earlier)
      rw [step, List.getElem?_append_right (Nat.le_of_not_lt earlier)] at present
      obtain rfl := List.mem_singleton.mp (List.mem_of_getElem? present)
      rw [fresh]
      exact syncs.obeys
  fetches := reconciling.fetches

theorem Reconciling.step (reconciling : Reconciling catalog tenant providerId past reconciliation)
    {step : Step} (concerns : step.Concerns providerId) :
    Reconciling catalog tenant providerId (past ++ (reconciliation.performs step).toList)
      (reconciliation.step catalog step) := by
  cases step with
  | begin request => simpa [performs] using reconciling.begin concerns
  | proceed call error =>
      cases held : reconciliation.next? call with
      | none => simpa [performs, Reconciliation.step, held] using reconciling
      | some state => exact reconciling.proceed held
  | change remote =>
      have changed : Reconciling catalog tenant providerId past
          (reconciliation.step catalog (.change remote)) :=
        { reconciling with named := concerns }
      simpa [performs] using changed
  | clock now =>
      have set : Reconciling catalog tenant providerId past
          (reconciliation.step catalog (.clock now)) := { reconciling with }
      simpa [performs] using set
  | switch method down =>
      obtain ⟨row, links, agrees⟩ := reconciling.row
      have switched : Reconciling catalog tenant providerId past
          (reconciliation.step catalog (.switch method down)) :=
        { reconciling with row := ⟨row, ⟨links.oneEach, links.own, links.linked⟩, agrees⟩ }
      simpa [performs] using switched

theorem Reconciling.run (reconciling : Reconciling catalog tenant providerId past reconciliation)
    {steps : List Step} (concerns : ∀ step ∈ steps, step.Concerns providerId) :
    Reconciling catalog tenant providerId (past ++ reconciliation.history catalog steps)
      (reconciliation.run catalog steps) := by
  induction steps generalizing reconciliation past with
  | nil =>
      rw [history, List.append_nil]
      exact reconciling
  | cons step steps ih =>
      rw [history, ← List.append_assoc]
      exact ih (reconciling.step (concerns step List.mem_cons_self)) fun other member =>
        concerns other (List.mem_cons_of_mem step member)

theorem history_append (catalog : Catalog) (reconciliation : Reconciliation) (first second : List Step) :
    reconciliation.history catalog (first ++ second) = reconciliation.history catalog first ++
      (reconciliation.run catalog first).history catalog second := by
  induction first generalizing reconciliation with
  | nil => rfl
  | cons step steps ih =>
      rw [List.cons_append, history, history, ih, List.append_assoc]
      rfl

def Step.Steady : Step → Prop
  | .change _ => False
  | _ => True

theorem remote_step (catalog : Catalog) (reconciliation : Reconciliation) {step : Step}
    (steady : step.Steady) : (reconciliation.step catalog step).remote = reconciliation.remote := by
  cases step with
  | change remote => exact steady.elim
  | proceed call error =>
      unfold Reconciliation.step
      dsimp only
      split <;> rfl
  | _ => rfl

theorem eq_remote_of_performs {step : Step} {call : Nat} {remote : Provider.RemoteSubscription}
    (fetches : reconciliation.performs step =
      some (call, ⟨.ask (.getSubscription providerId), .ok remote⟩)) :
    remote = reconciliation.remote := by
  cases step with
  | proceed other error =>
      obtain ⟨⟨request, action, next⟩, -, performed⟩ := Option.map_eq_some_iff.mp fetches
      obtain ⟨rfl, answered⟩ := Performed.mk.inj (Prod.mk.inj performed).2
      exact eq_remote_of_answers (eq_of_heq answered)
  | _ => cases fetches

theorem remote_run (catalog : Catalog) (reconciliation : Reconciliation) {steps : List Step}
    (steady : ∀ step ∈ steps, step.Steady) :
    (reconciliation.run catalog steps).remote = reconciliation.remote := by
  induction steps generalizing reconciliation with
  | nil => rfl
  | cons step steps ih =>
      have rest := ih (reconciliation.step catalog step) fun other member =>
        steady other (List.mem_cons_of_mem step member)
      exact rest.trans (reconciliation.remote_step catalog (steady step List.mem_cons_self))

theorem eq_remote_of_steady {steps : List Step} (steady : ∀ step ∈ steps, step.Steady) {call : Nat}
    {remote : Provider.RemoteSubscription}
    (fetches : (call, ⟨.ask (.getSubscription providerId), .ok remote⟩) ∈
      reconciliation.history catalog steps) : remote = reconciliation.remote := by
  induction steps generalizing reconciliation with
  | nil => exact nomatch fetches
  | cons step steps ih =>
      rcases List.mem_append.mp fetches with first | later
      · exact eq_remote_of_performs (Option.mem_toList.mp first)
      · have same := reconciliation.remote_step catalog (steady step List.mem_cons_self)
        exact (ih (fun other member => steady other (List.mem_cons_of_mem step member)) later).trans same

end

end Reconciliation

/-- The row is as the provider has the subscription. The plan is told by its first price, if that is one
of the catalog. -/
structure Subscription.Mirrors (catalog : Catalog) (row : Subscription)
    (remote : Provider.RemoteSubscription) : Prop where
  status : row.status = remote.status
  periodStart : row.periodStart = remote.periodStart.bind Instant.ofUnix?
  periodEnd : row.periodEnd = remote.periodEnd.bind Instant.ofUnix?
  trialStart : row.trialStart = remote.trialStart.bind Instant.ofUnix?
  trialEnd : row.trialEnd = remote.trialEnd.bind Instant.ofUnix?
  cancelAt : row.cancelAt = remote.cancelAt.bind Instant.ofUnix?
  canceledAt : row.canceledAt = remote.canceledAt.bind Instant.ofUnix?
  cancelAtPeriodEnd : row.cancelAtPeriodEnd = remote.cancelAtPeriodEnd
  paymentMethodId : row.paymentMethodId = remote.paymentMethod
  plan : ∀ priceId plan, remote.primaryPriceId? = some priceId →
    catalog.planForPrice? priceId = some plan → row.plan = plan.name ∧ row.priceId = some priceId

theorem Subscription.Mirrors.of_agrees {catalog : Catalog} {row : Subscription}
    {remote : Provider.RemoteSubscription}
    (agrees : (Snapshot.ofRemote remote (catalog.planOf remote)).Agrees row) :
    row.Mirrors catalog remote where
  status := agrees.status
  periodStart := agrees.periodStart
  periodEnd := agrees.periodEnd
  trialStart := agrees.trialStart
  trialEnd := agrees.trialEnd
  cancelAt := agrees.cancelAt
  canceledAt := agrees.canceledAt
  cancelAtPeriodEnd := agrees.cancelAtPeriodEnd
  paymentMethodId := agrees.paymentMethodId
  plan := by
    intro priceId plan first sold
    have known : catalog.planOf remote = some (plan, priceId) := by simp [Catalog.planOf, first, sold]
    have taken := agrees.plan plan (by simp [Snapshot.ofRemote, known])
    simpa [Snapshot.ofRemote, known] using taken

def Running.Completed (running : Running) : Prop :=
  ∃ result, running.left = .done result ∧ running.request.fault? result = none

namespace Reconciliation

def Fetches (history : History) (call : Nat) (providerId : String) : Prop :=
  ∃ remote, (call, ⟨.ask (.getSubscription providerId), .ok remote⟩) ∈ history

section

variable {catalog : Catalog} {tenant : Uuid} {providerId : String} {past : History}
  {reconciliation : Reconciliation}

theorem Reconciling.start {initial : Subscription} (named : reconciliation.remote.id = providerId)
    (links : reconciliation.service.store.Links tenant providerId initial)
    (idle : reconciliation.calls = []) : Reconciling catalog tenant providerId [] reconciliation where
  named := named
  row := ⟨initial, links, by simp [History.lastStore?, History.stores]⟩
  begun := by simp
  calls := by simp [idle]
  fetches := by constructor <;> simp

theorem Reconciling.lastStore? (reconciling : Reconciling catalog tenant providerId past reconciliation)
    (begun : reconciliation.calls ≠ [])
    (completed : ∀ running ∈ reconciliation.calls, running.Completed) :
    ∃ call remote, past.lastStore? = some (call, .ofRemote remote (catalog.planOf remote)) ∧
      (call, ⟨.ask (.getSubscription providerId), .ok remote⟩) ∈ past := by
  obtain ⟨running, member⟩ := List.exists_mem_of_ne_nil _ begun
  obtain ⟨other, found⟩ := List.mem_iff_getElem?.mp member
  obtain ⟨result, returned, sound⟩ := completed running member
  have settled := reconciling.calls other running found
  rw [returned] at settled
  obtain ⟨performed, carried, stored⟩ := settled sound
  obtain ⟨snapshot, stored⟩ := Option.isSome_iff_exists.mp stored
  obtain ⟨outcome, rfl⟩ := Performed.of_stored? stored
  have stores : past.stores ≠ [] :=
    List.ne_nil_of_mem (History.mem_stores.mpr ⟨outcome, History.mem_own.mp carried⟩)
  obtain ⟨call, written, last⟩ : ∃ call written, past.lastStore? = some (call, written) :=
    ⟨_, _, List.getLast?_eq_some_getLast stores⟩
  obtain ⟨outcome, present⟩ := History.mem_stores.mp (List.mem_of_getLast? last)
  obtain ⟨remote, rfl, fetched⟩ := reconciling.fetches.told call written _ present
  exact ⟨call, remote, last, fetched⟩

/-- Synchronisations of one subscription fetch it and store it, in any order, while it changes. When all
of them have completed, the row is what the last of them to store had fetched; and if that one has
fetched it after the last change, the row is as the provider has the subscription in the end. -/
theorem mirrors_lastStore (start : Reconciliation) {initial : Subscription}
    (links : start.service.store.Links tenant providerId initial) (idle : start.calls = [])
    (named : start.remote.id = providerId) (early late : List Step)
    (concerns : ∀ step ∈ early ++ late, step.Concerns providerId)
    (steady : ∀ step ∈ late, step.Steady) (begun : (start.run catalog (early ++ late)).calls ≠ [])
    (completed : ∀ running ∈ (start.run catalog (early ++ late)).calls, running.Completed) :
    let reached := start.run catalog (early ++ late)
    ∃ call fetched row, reached.service.store.Links tenant providerId row ∧
      (start.history catalog (early ++ late)).lastStore? =
        some (call, .ofRemote fetched (catalog.planOf fetched)) ∧
      (call, ⟨.ask (.getSubscription providerId), .ok fetched⟩) ∈
        start.history catalog (early ++ late) ∧
      row.Mirrors catalog fetched ∧
      (Fetches ((start.run catalog early).history catalog late) call providerId →
        row.Mirrors catalog reached.remote) := by
  intro reached
  have reconciling : Reconciling catalog tenant providerId (start.history catalog (early ++ late))
      reached := (Reconciling.start named links idle).run concerns
  obtain ⟨call, fetched, last, member⟩ := reconciling.lastStore? begun completed
  obtain ⟨row, kept, agrees⟩ := reconciling.row
  have mirrors : row.Mirrors catalog fetched := .of_agrees (agrees call _ last)
  refine ⟨call, fetched, row, kept, last, member, mirrors, ?_⟩
  rintro ⟨remote, again⟩
  have present : (call, ⟨.ask (.getSubscription providerId), .ok remote⟩) ∈
      start.history catalog (early ++ late) := by
    rw [history_append]
    exact List.mem_append_right _ again
  obtain rfl : fetched = remote := by
    have same := reconciling.fetches.once call _ _ member present trivial trivial
    exact Except.ok.inj (eq_of_heq (Performed.mk.inj same).2)
  have unchanged : reached.remote = (start.run catalog early).remote := by
    rw [← remote_run catalog (start.run catalog early) steady, run, run, ← List.foldl_append]
    rfl
  rw [unchanged, ← eq_remote_of_steady steady again]
  exact mirrors

end

def proSold : Catalog := ⟨{ pro := some "price_pro" }⟩

def upToDate : Provider.RemoteSubscription where
  id := "sub_1"
  status := "active"
  items := [{ id := "si_1", price := { id := "price_pro" } }]

def overdue : Provider.RemoteSubscription := { upToDate with status := "past_due" }

def unsynced : Reconciliation where
  service := {
    clock := ⟨1700000000, 0⟩
    store := { subscriptions :=
      [{ Subscription.freeTier ⟨5⟩ ⟨1⟩ ⟨1700000000, 0⟩ with providerId := some "sub_1" }] } }
  remote := upToDate

theorem links_unsynced : ∃ row, unsynced.service.store.Links ⟨1⟩ "sub_1" row :=
  ⟨_, List.nodup_singleton _, rfl, rfl⟩

def fetchedEarly : List Step :=
  [.begin (.sync "sub_1"), .begin (.sync "sub_1"), .proceed 0 none, .change overdue]

def inTurn : List Step :=
  [.proceed 1 none, .proceed 0 none, .proceed 0 none, .proceed 1 none, .proceed 1 none]

def overtaken : List Step :=
  [.proceed 1 none, .proceed 1 none, .proceed 1 none, .proceed 0 none, .proceed 0 none]

theorem ended_twice {late : List Step} (either : late = inTurn ∨ late = overtaken) :
    (∀ step ∈ fetchedEarly ++ late, step.Concerns "sub_1") ∧ (∀ step ∈ late, step.Steady) ∧
    (unsynced.run proSold (fetchedEarly ++ late)).calls =
      List.replicate 2 ⟨.sync "sub_1", .done (.ok .updated)⟩ ∧
    Fetches ((unsynced.run proSold fetchedEarly).history proSold late) 1 "sub_1" := by
  rcases either with rfl | rfl
  · refine ⟨?_, ?_, rfl, overdue, List.mem_iff_getElem?.mpr ⟨0, rfl⟩⟩
    · simp [fetchedEarly, inTurn, Step.Concerns, Pool.Request.Syncs.sync, overdue, upToDate]
    · simp [inTurn, Step.Steady]
  · refine ⟨?_, ?_, rfl, overdue, List.mem_iff_getElem?.mpr ⟨0, rfl⟩⟩
    · simp [fetchedEarly, overtaken, Step.Concerns, Pool.Request.Syncs.sync, overdue, upToDate]
    · simp [overtaken, Step.Steady]

theorem completed_of_replicate {count : Nat} {calls : List Running} {outcome : SyncOutcome}
    (ended : calls = List.replicate count ⟨.sync "sub_1", .done (.ok outcome)⟩) :
    ∀ running ∈ calls, running.Completed := by
  intro running member
  obtain rfl := List.eq_of_mem_replicate (ended ▸ member)
  exact ⟨_, rfl, rfl⟩

theorem mirrors_lastStore_inTurn : ∃ row,
    (unsynced.run proSold (fetchedEarly ++ inTurn)).service.store.Links ⟨1⟩ "sub_1" row ∧
      row.Mirrors proSold overdue ∧ row.plan = "pro" := by
  obtain ⟨concerns, steady, ended, fetches⟩ := ended_twice (.inl rfl)
  obtain ⟨_, links⟩ := links_unsynced
  obtain ⟨call, fetched, row, kept, last, _, _, current⟩ := mirrors_lastStore unsynced links rfl rfl
    fetchedEarly inTurn concerns steady (by simp [ended]) (completed_of_replicate ended)
  have second : (unsynced.history proSold (fetchedEarly ++ inTurn)).lastStore? =
      some (1, .ofRemote overdue (proSold.planOf overdue)) := rfl
  obtain ⟨rfl, -⟩ := Prod.mk.inj (Option.some.inj (last.symm.trans second))
  have mirrors := current fetches
  exact ⟨row, kept, mirrors, (mirrors.plan "price_pro" .pro rfl (by decide)).1⟩

/-- So it is not enough that some call has fetched after the last change: one that has fetched before
may store after it. -/
theorem stale_store_wins : ¬ ∀ (catalog : Catalog) (tenant : Uuid) (providerId : String)
    (start : Reconciliation) (early late : List Step),
    (∃ initial, start.service.store.Links tenant providerId initial) → start.calls = [] →
    start.remote.id = providerId → (∀ step ∈ early ++ late, step.Concerns providerId) →
    (∀ step ∈ late, step.Steady) →
    (∀ running ∈ (start.run catalog (early ++ late)).calls, running.Completed) →
    (∃ call, Fetches ((start.run catalog early).history catalog late) call providerId) →
    ∃ row, (start.run catalog (early ++ late)).service.store.Links tenant providerId row ∧
      row.Mirrors catalog (start.run catalog (early ++ late)).remote := by
  intro converges
  obtain ⟨concerns, steady, ended, fetches⟩ := ended_twice (.inr rfl)
  obtain ⟨row, links, mirrors⟩ := converges proSold ⟨1⟩ "sub_1" unsynced fetchedEarly overtaken
    links_unsynced rfl rfl concerns steady (completed_of_replicate ended) ⟨1, fetches⟩
  have stale : ((unsynced.run proSold (fetchedEarly ++ overtaken)).service.store.linkedRow? "sub_1").map
      (·.status) = some "active" := rfl
  rw [links.linked, Option.map_some, mirrors.status] at stale
  exact absurd stale (by decide)

end Reconciliation

end UsageBilling
