import UsageBilling.Proofs.Service.Rows
import UsageBilling.Proofs.Store.Syncing
import UsageBilling.Proofs.Subscription.Failures
/-!
What an operation writes through to the row of its tenant is what a synchronisation right after it
would copy. Both turn the same answer of the provider into a snapshot: the operation under the plan
that was asked for, the synchronisation under the plan that is sold for the first price of the answer.
-/
namespace UsageBilling

namespace Store

theorem applySnapshot_ok {store : Store} {tenant : Uuid} {snapshot : Snapshot} {now : Instant}
    {row : Subscription} (applied : (store.applySnapshot tenant snapshot now).1 = .ok row) :
    (∃ old, old.tenant = tenant ∧ row = snapshot.apply old now) ∧
      (store.applySnapshot tenant snapshot now).2 = store.put row := by
  unfold applySnapshot guarded update at applied ⊢
  split at applied
  · cases applied
  · next working =>
      rw [if_neg working]
      cases found : store.rowOf? tenant with
      | none =>
          rw [found] at applied
          cases applied
      | some old =>
          rw [found] at applied
          cases applied
          exact ⟨⟨old, (mem_of_rowOf? found).2, rfl⟩, rfl⟩

end Store

namespace Program

theorem oneEach_runWith {α : Type} (answers : Provider.Answers) (program : Program α)
    {service : Service} (oneEach : Store.OneEach service.store.subscriptions) :
    Store.OneEach (program.runWith answers service).2.store.subscriptions := by
  induction program generalizing service with
  | done result => exact oneEach
  | step action next ih => exact ih _ ((service.act_rows answers action).oneEach oneEach)

end Program

namespace Attempt

variable {α β : Type} {answers : Provider.Answers} {before after : Service}

/-- The attempt succeeds, from start to end with nothing in between. -/
def Yields (attempt : Attempt α) (answers : Provider.Answers) (before : Service) (result : α)
    (after : Service) : Prop :=
  attempt.outcome.runWith answers before = (.ok result, after)

theorem yields_bind {attempt : Attempt α} {next : α → Attempt β} {result : β}
    (yields : (attempt >>= next).Yields answers before result after) :
    ∃ value amid, attempt.Yields answers before value amid ∧
      (next value).Yields answers amid result after := by
  unfold Yields at yields
  rw [show (attempt >>= next).outcome = attempt.outcome >>= ExceptT.bindCont next from rfl,
    Program.runWith_bind] at yields
  rcases first : attempt.outcome.runWith answers before with ⟨fault | value, amid⟩
  · rw [first] at yields
    cases yields
  · rw [first] at yields
    exact ⟨value, amid, first, yields⟩

theorem yields_pure {value result : α}
    (yields : (pure value : Attempt α).Yields answers before result after) :
    result = value ∧ after = before := by
  cases yields
  exact ⟨rfl, rfl⟩

theorem yields_except {value : Except Fault α} {result : α}
    (yields : (liftM value : Attempt α).Yields answers before result after) :
    value = .ok result ∧ after = before := by
  cases value with
  | error fault => cases yields
  | ok present =>
      cases yields
      exact ⟨rfl, rfl⟩

theorem yields_lift {action : Action} {reply : action.Reply}
    (yields : (liftM (perform action) : Attempt action.Reply).Yields answers before reply after) :
    reply = (before.act answers action).1 ∧ after = (before.act answers action).2 := by
  cases yields
  exact ⟨rfl, rfl⟩

end Attempt

namespace Lifecycle

variable {answers : Provider.Answers} {before after : Service} {tenant : Uuid} {row : Subscription}

theorem yields_require {α : Type} {value : Option α} {fault : Fault} {present : α}
    (yields : (require value fault).Yields answers before present after) :
    value = some present ∧ after = before := by
  cases value with
  | none => cases yields
  | some other =>
      cases yields
      exact ⟨rfl, rfl⟩

theorem yields_ask {call : Provider.Call} {answer : call.Answer}
    (yields : (ask call).Yields answers before answer after) :
    answers call = .ok answer ∧ after = { before with calls := before.calls ++ [call] } := by
  obtain ⟨reply, amid, asked, rest⟩ := Attempt.yields_bind yields
  obtain ⟨rfl, rfl⟩ := Attempt.yields_lift asked
  change (match answers call with
    | .ok answer => pure answer
    | .error error => do
      perform (.count (.errors "provider" call.name))
      throw error.toFault : Attempt call.Answer).Yields _ _ _ _ at rest
  cases answered : answers call with
  | error error =>
      rw [answered] at rest
      cases rest
  | ok given =>
      rw [answered] at rest
      obtain ⟨rfl, rfl⟩ := Attempt.yields_pure rest
      exact ⟨rfl, rfl⟩

theorem yields_get (yields : (get tenant).Yields answers before row after) :
    after.calls = before.calls := by
  have ends : (get tenant).Ends (operationRules (some tenant)) [] (fun _ trace => Idle trace) Spares :=
    ends_get idle_nil fun _ _ idle _ => idle
  obtain ⟨trace, idle, traced⟩ := Program.Obeys.runWith
    (fun trace service action allowed traced => Traced.act traced answers allowed) ends
    (Traced.start (some tenant) before)
  rw [show (get tenant).outcome.runWith answers before = (.ok row, after) from yields] at idle traced
  exact traced.calls idle.unasked

structure Written (tenant : Uuid) (snapshot : Snapshot) (row : Subscription) (after : Service) :
    Prop where
  applied : ∃ old moment, row = snapshot.apply old moment
  stored : after.store.rowOf? tenant = some row

theorem yields_written {snapshot : Snapshot} {operation : Operation}
    (yields : (do
      let row ← orFail (perform (.applySnapshot tenant snapshot))
      countOperation operation
      return row : Attempt Subscription).Yields answers before row after) :
    after.calls = before.calls ∧ Written tenant snapshot row after := by
  obtain ⟨written, amid, applied, rest⟩ := Attempt.yields_bind yields
  obtain ⟨counted, last, counts, returned⟩ := Attempt.yields_bind rest
  obtain ⟨rfl, rfl⟩ := Attempt.yields_pure returned
  cases counts
  have answered : (before.store.applySnapshot tenant snapshot before.clock).1 = .ok row :=
    congrArg Prod.fst applied
  obtain rfl : { before with store := (before.store.applySnapshot tenant snapshot before.clock).2 } =
      amid := congrArg Prod.snd applied
  obtain ⟨⟨old, own, rfl⟩, put⟩ := Store.applySnapshot_ok answered
  refine ⟨rfl, ⟨old, _, rfl⟩, ?_⟩
  obtain rfl : (snapshot.apply old before.clock).tenant = tenant := (snapshot.tenant_apply old _).trans own
  simp only [Service.count_store, put, Store.rowOf?_put]

end Lifecycle

namespace Provider

def returned? (answers : Answers) : Call → Option RemoteSubscription
  | .createSubscription request => (answers (.createSubscription request)).toOption
  | .updateSubscription id update => (answers (.updateSubscription id update)).toOption
  | .cancelSubscription id atPeriodEnd => (answers (.cancelSubscription id atPeriodEnd)).toOption
  | _ => none

def lastReturned? (answers : Answers) (calls : List Call) : Option RemoteSubscription :=
  (calls.filterMap (returned? answers)).getLast?

end Provider

/-- The operations that write what the provider returns to the row of their tenant. -/
inductive Lifecycle.Change where
  | subscribe (planName : String) (paymentMethod : Option String)
  | changePlan (planName : String)
  | cancel (immediate : Bool)

namespace Lifecycle.Change

def attempt (catalog : Catalog) (tenant : Uuid) : Change → Attempt Subscription
  | subscribe planName paymentMethod => Lifecycle.subscribe catalog tenant planName paymentMethod
  | changePlan planName => Lifecycle.changePlan catalog tenant planName
  | cancel immediate => Lifecycle.cancel catalog tenant immediate

def planName? : Change → Option String
  | subscribe planName _ | changePlan planName => some planName
  | cancel _ => none

def paymentMethod? : Change → Option String
  | subscribe _ paymentMethod => paymentMethod
  | _ => none

def Carries (change : Change) (catalog : Catalog) (remote : Provider.RemoteSubscription) : Prop :=
  ∀ planName terms priceId, change.planName? = some planName →
    catalog.pricedPlan planName = .ok (terms, priceId) → remote.primaryPriceId? = some priceId

/-- What is written: what a synchronisation copies, and a payment method that was not confirmed. -/
def snapshot (change : Change) (catalog : Catalog) (remote : Provider.RemoteSubscription) : Snapshot :=
  { Snapshot.ofRemote remote (catalog.planOf remote) with
    paymentMethodId := remote.paymentMethod.or change.paymentMethod? }

theorem snapshot_of_none {change : Change} (none : change.paymentMethod? = none) (catalog : Catalog)
    (remote : Provider.RemoteSubscription) :
    change.snapshot catalog remote = .ofRemote remote (catalog.planOf remote) := by
  unfold snapshot
  rw [none, Option.or_none]
  rfl

end Lifecycle.Change

def Catalog.Distinct (catalog : Catalog) : Prop :=
  ∀ priceId, catalog.prices.pro = some priceId → catalog.prices.enterprise ≠ some priceId

namespace Catalog

variable {catalog : Catalog}

theorem Distinct.planForPrice? (distinct : catalog.Distinct) {plan : Plan} {priceId : String}
    (priced : catalog.priceOf plan = some priceId) : catalog.planForPrice? priceId = some plan := by
  have apart : plan = .enterprise → catalog.priceOf .pro ≠ some priceId := by
    rintro rfl same
    exact distinct priceId (Option.filter_eq_some_iff.mp same).1 (Option.filter_eq_some_iff.mp priced).1
  have free : catalog.priceOf .free ≠ some priceId := nofun
  unfold Catalog.planForPrice? Plan.all
  rw [List.find?_cons_of_neg (by simpa using free)]
  cases plan with
  | free => exact absurd priced free
  | pro => rw [List.find?_cons_of_pos (by simpa using priced)]
  | enterprise =>
      rw [List.find?_cons_of_neg (by simpa using apart rfl),
        List.find?_cons_of_pos (by simpa using priced)]

theorem Distinct.planOf (distinct : catalog.Distinct) {planName : String} {terms : PlanTerms}
    {priceId : String} (sold : catalog.pricedPlan planName = .ok (terms, priceId))
    {remote : Provider.RemoteSubscription} (carried : remote.primaryPriceId? = some priceId) :
    catalog.planOf remote = some (terms.plan, priceId) := by
  simp [Catalog.planOf, carried, distinct.planForPrice? (priceOf_of_pricedPlan sold)]

end Catalog

namespace Lifecycle

variable {catalog : Catalog} {answers : Provider.Answers} {before after : Service} {tenant : Uuid}
  {row : Subscription}

structure WritesThrough (catalog : Catalog) (change : Change) (answers : Provider.Answers)
    (tenant : Uuid) (row : Subscription) (made : List Provider.Call) (after : Service)
    (remote : Provider.RemoteSubscription) : Prop where
  returned : Provider.lastReturned? answers made = some remote
  written : change.Carries catalog remote → Written tenant (change.snapshot catalog remote) row after

theorem yields_subscribe (distinct : catalog.Distinct) {planName : String}
    {paymentMethod : Option String}
    (yields : (subscribe catalog tenant planName paymentMethod).Yields answers before row after) :
    ∃ made remote, after.calls = before.calls ++ made ∧
      WritesThrough catalog (.subscribe planName paymentMethod) answers tenant row made after remote := by
  obtain ⟨old, _, got, onRow⟩ := Attempt.yields_bind yields
  obtain ⟨customerId, _, required, onCustomer⟩ := Attempt.yields_bind onRow
  obtain ⟨-, rfl⟩ := yields_require required
  obtain ⟨⟨terms, priceId⟩, _, priced, onPlan⟩ := Attempt.yields_bind onCustomer
  obtain ⟨sold, rfl⟩ := Attempt.yields_except priced
  obtain ⟨remote, _, asked, onAnswer⟩ := Attempt.yields_bind onPlan
  obtain ⟨answered, rfl⟩ := yields_ask asked
  obtain ⟨calls, written⟩ := yields_written onAnswer
  refine ⟨_, remote, calls.trans (congrArg (· ++ _) (yields_get got)), ?_, fun carries => ?_⟩
  · simp [Provider.lastReturned?, Provider.returned?, answered, Except.toOption]
  · unfold Change.snapshot
    rw [distinct.planOf sold (carries planName terms priceId rfl sold)]
    exact written

theorem yields_changePlan (distinct : catalog.Distinct) {planName : String}
    (yields : (changePlan catalog tenant planName).Yields answers before row after) :
    ∃ made remote, after.calls = before.calls ++ made ∧
      WritesThrough catalog (.changePlan planName) answers tenant row made after remote := by
  obtain ⟨old, _, got, onRow⟩ := Attempt.yields_bind yields
  obtain ⟨providerId, _, required, onLink⟩ := Attempt.yields_bind onRow
  obtain ⟨-, rfl⟩ := yields_require required
  obtain ⟨⟨terms, priceId⟩, _, priced, onPlan⟩ := Attempt.yields_bind onLink
  obtain ⟨sold, rfl⟩ := Attempt.yields_except priced
  obtain ⟨current, _, fetched, onCurrent⟩ := Attempt.yields_bind onPlan
  obtain ⟨-, rfl⟩ := yields_ask fetched
  obtain ⟨item, _, first, onItem⟩ := Attempt.yields_bind onCurrent
  obtain ⟨-, rfl⟩ := yields_require first
  obtain ⟨remote, _, asked, onAnswer⟩ := Attempt.yields_bind onItem
  obtain ⟨answered, rfl⟩ := yields_ask asked
  obtain ⟨calls, written⟩ := yields_written onAnswer
  simp only [List.append_assoc, yields_get got] at calls
  refine ⟨_, remote, calls, ?_, fun carries => ?_⟩
  · simp [Provider.lastReturned?, Provider.returned?, answered, Except.toOption]
  · rw [Change.snapshot_of_none rfl, distinct.planOf sold (carries planName terms priceId rfl sold)]
    exact written

theorem yields_cancel {immediate : Bool}
    (yields : (cancel catalog tenant immediate).Yields answers before row after) :
    after.calls = before.calls ∨ ∃ made remote, after.calls = before.calls ++ made ∧
      WritesThrough catalog (.cancel immediate) answers tenant row made after remote := by
  obtain ⟨old, _, got, onRow⟩ := Attempt.yields_bind yields
  cases linked : old.providerId with
  | none =>
      rw [linked] at onRow
      obtain ⟨canceled, _, marked, onMarked⟩ := Attempt.yields_bind onRow
      obtain ⟨counted, _, counts, returned⟩ := Attempt.yields_bind onMarked
      obtain ⟨rfl, rfl⟩ := Attempt.yields_pure returned
      cases counts
      cases congrArg Prod.snd marked
      have unasked := yields_get got
      exact .inl unasked
  | some providerId =>
      rw [linked] at onRow
      obtain ⟨remote, _, asked, onAnswer⟩ := Attempt.yields_bind onRow
      obtain ⟨answered, rfl⟩ := yields_ask asked
      obtain ⟨calls, written⟩ := yields_written onAnswer
      refine .inr ⟨_, remote, calls.trans (congrArg (· ++ _) (yields_get got)), ?_, fun _ => ?_⟩
      · simp [Provider.lastReturned?, Provider.returned?, answered, Except.toOption]
      · rw [Change.snapshot_of_none rfl]
        exact written

theorem yields_change (distinct : catalog.Distinct) {change : Change}
    (yields : (change.attempt catalog tenant).Yields answers before row after) :
    after.calls = before.calls ∨ ∃ made remote, after.calls = before.calls ++ made ∧
      WritesThrough catalog change answers tenant row made after remote := by
  cases change with
  | subscribe planName paymentMethod => exact .inr (yields_subscribe distinct yields)
  | changePlan planName => exact .inr (yields_changePlan distinct yields)
  | cancel immediate => exact yields_cancel yields

/-- What has been written is the snapshot of what was last returned. -/
theorem written_of_lastReturned (distinct : catalog.Distinct) {change : Change}
    (yields : (change.attempt catalog tenant).Yields answers before row after)
    {made : List Provider.Call} (calls : after.calls = before.calls ++ made)
    {remote : Provider.RemoteSubscription} (last : Provider.lastReturned? answers made = some remote)
    (carries : change.Carries catalog remote) :
    Written tenant (change.snapshot catalog remote) row after := by
  rcases yields_change distinct yields with unasked | ⟨own, returned, asked, through⟩
  · obtain rfl : made = [] := List.append_cancel_left (calls.symm.trans (by simpa using unasked))
    cases last
  · obtain rfl : made = own := List.append_cancel_left (calls.symm.trans asked)
    obtain rfl : remote = returned := Option.some.inj (last.symm.trans through.returned)
    exact through.written carries

theorem runWith_sync_ok {remote : Provider.RemoteSubscription} {providerId : String}
    (answered : answers (.getSubscription providerId) = .ok remote) {outcome : SyncOutcome} {synced : Store}
    (copied : before.store.syncSnapshot (.ofRemote remote (catalog.planOf remote)) before.clock =
      (.ok outcome, synced)) :
    ((sync catalog providerId).outcome.runWith answers before).1 = .ok outcome ∧
      ((sync catalog providerId).outcome.runWith answers before).2.store = synced := by
  rw [Webhook.sync_steps]
  simp [Program.runWith, Service.act, answered, Service.perform, Service.onStore, copied]

end Lifecycle

/-- The payment method that was asked for has been kept, though the provider named none. -/
def Lifecycle.Change.Unconfirmed (change : Change) (remote : Provider.RemoteSubscription) : Prop :=
  remote.paymentMethod = none ∧ change.paymentMethod?.isSome

namespace Lifecycle

section

variable {catalog : Catalog} {change : Change} {remote : Provider.RemoteSubscription}
  {row : Subscription}

theorem snapshot_of_confirmed (confirmed : ¬change.Unconfirmed remote) :
    change.snapshot catalog remote = .ofRemote remote (catalog.planOf remote) := by
  have same : remote.paymentMethod.or change.paymentMethod? = remote.paymentMethod := by
    cases named : remote.paymentMethod with
    | some method => rfl
    | none =>
        have unasked : change.paymentMethod? = none := by
          simpa [Change.Unconfirmed, named] using confirmed
        rw [unasked, Option.or_none]
  unfold Change.snapshot
  rw [same]
  rfl

theorem apply_of_unconfirmed (unconfirmed : change.Unconfirmed remote)
    (agrees : (change.snapshot catalog remote).Agrees row) (now : Instant) :
    (Snapshot.ofRemote remote (catalog.planOf remote)).changes row = true ∧
      (Snapshot.ofRemote remote (catalog.planOf remote)).apply row now =
        { row with paymentMethodId := none, updatedAt := now } := by
  obtain ⟨named, asked⟩ := unconfirmed
  obtain ⟨method, asked⟩ := Option.isSome_iff_exists.mp asked
  have kept : row.paymentMethodId = some method := by
    rw [agrees.paymentMethodId, Change.snapshot, named, asked]
    rfl
  have dropped : (Snapshot.ofRemote remote (catalog.planOf remote)).overwrite row =
      { row with paymentMethodId := none } := by
    conv_rhs => rw [← agrees.overwrite]
    rw [← named]
    rfl
  have changed : (Snapshot.ofRemote remote (catalog.planOf remote)).changes row = true := by
    rw [Snapshot.changes_iff]
    intro mirrored
    have cleared := kept.symm.trans (mirrored.paymentMethodId.trans named)
    cases cleared
  refine ⟨changed, ?_⟩
  unfold Snapshot.apply
  rw [if_pos changed, dropped]

end

/-- Writing through agrees with synchronising. After an operation that has succeeded and has asked the
provider, a synchronisation that is answered with what the provider last returned finds everything as it
is and leaves it so. Only a payment method that was asked for and not confirmed is dropped. -/
theorem sync_after_change {catalog : Catalog} (distinct : catalog.Distinct) (change : Change)
    (tenant : Uuid) {answers later : Provider.Answers} {before after : Service} {row : Subscription}
    (oneEach : Store.OneEach before.store.subscriptions)
    (succeeds : (change.attempt catalog tenant).Yields answers before row after)
    {made : List Provider.Call} (calls : after.calls = before.calls ++ made)
    {remote : Provider.RemoteSubscription} (last : Provider.lastReturned? answers made = some remote)
    (carries : change.Carries catalog remote)
    (alone : ∀ other ∈ after.store.subscriptions, other.providerId = some remote.id →
      other.tenant = tenant)
    (working : after.store.isDown .syncSnapshot = false) {providerId : String}
    (repeats : later (.getSubscription providerId) = .ok remote) (now : Instant) :
    let synced := (sync catalog providerId).outcome.runWith later { after with clock := now }
    after.store.rowOf? tenant = some row ∧
    (¬change.Unconfirmed remote → synced.1 = .ok .unchanged ∧ synced.2.store = after.store) ∧
    (change.Unconfirmed remote → synced.1 = .ok .updated ∧ synced.2.store =
      after.store.put { row with paymentMethodId := none, updatedAt := now }) := by
  intro synced
  obtain ⟨⟨old, moment, applied⟩, stored⟩ := written_of_lastReturned distinct succeeds calls last carries
  have agrees : (change.snapshot catalog remote).Agrees row :=
    applied ▸ Snapshot.agrees_apply _ old moment
  obtain ⟨member, own⟩ := Store.mem_of_rowOf? stored
  have stillOneEach : Store.OneEach after.store.subscriptions := by
    have kept := (change.attempt catalog tenant).outcome.oneEach_runWith answers oneEach
    rwa [show (change.attempt catalog tenant).outcome.runWith answers before = (.ok row, after) from
      succeeds] at kept
  have found : after.store.linkedRow? remote.id = some row := by
    refine Store.linkedRow?_of_only member agrees.providerId fun other present linked => ?_
    exact stillOneEach.eq present member ((alone other present linked).trans own.symm)
  refine ⟨stored, fun confirmed => ?_, fun unconfirmed => ?_⟩
  · rw [snapshot_of_confirmed confirmed] at agrees
    exact runWith_sync_ok repeats (Store.syncSnapshot_of_agrees stillOneEach working found agrees)
  · obtain ⟨changes, dropped⟩ := apply_of_unconfirmed unconfirmed agrees now
    rw [← dropped]
    exact runWith_sync_ok repeats (Store.syncSnapshot_of_changes working found changes)

def bothSold : Catalog := ⟨{ pro := some "price_pro", enterprise := some "price_enterprise" }⟩

theorem bothSold_distinct : bothSold.Distinct := by
  rintro _ ⟨⟩
  decide

def customer : Subscription :=
  { Subscription.freeTier ⟨5⟩ ⟨1⟩ ⟨1700000000, 0⟩ with customerId := some "cus_1" }

def enrolled : Service := { clock := ⟨1700000000, 0⟩, store := { subscriptions := [customer] } }

theorem enrolled_oneEach : Store.OneEach enrolled.store.subscriptions := List.nodup_singleton _

def unnamed : Provider.RemoteSubscription where
  id := "sub_1"
  status := "active"
  items := [{ id := "si_1", price := { id := "price_pro" } }]

def selling : Provider.Answers
  | .createSubscription _ | .getSubscription _ => .ok unnamed
  | _ => .error .notConfigured

def subscribed (paymentMethod : Option String) : Subscription :=
  { customer with
    providerId := some "sub_1"
    priceId := some "price_pro"
    plan := "pro"
    periodStart := none
    periodEnd := none
    paymentMethodId := paymentMethod }

def afterSubscribing (paymentMethod : Option String) : Service :=
  ((Change.subscribe "pro" paymentMethod).attempt bothSold ⟨1⟩).outcome.runWith selling enrolled |>.2

theorem yields_subscribed (paymentMethod : Option String) :
    ((Change.subscribe "pro" paymentMethod).attempt bothSold ⟨1⟩).Yields selling enrolled
      (subscribed paymentMethod) (afterSubscribing paymentMethod) := by
  rfl

theorem alone_subscribed (paymentMethod : Option String) :
    ∀ other ∈ (afterSubscribing paymentMethod).store.subscriptions,
      other.providerId = some unnamed.id → other.tenant = ⟨1⟩ := by
  intro other member _
  obtain rfl : other = subscribed paymentMethod := List.mem_singleton.mp member
  rfl

theorem carries_subscribed (paymentMethod : Option String) :
    (Change.subscribe "pro" paymentMethod).Carries bothSold unnamed := by
  rintro _ terms priceId ⟨⟩ sold
  have priced : bothSold.pricedPlan "pro" = .ok (bothSold.terms .pro, "price_pro") := rfl
  obtain ⟨-, rfl⟩ := Prod.mk.inj (Except.ok.inj (priced.symm.trans sold))
  rfl

/-- Without a payment method the row stays as it is; one that was not confirmed is dropped. -/
theorem sync_after_change_subscribed :
    let synced := fun paymentMethod =>
      (sync bothSold "sub_1").outcome.runWith selling (afterSubscribing paymentMethod)
    (synced none).1 = .ok .unchanged ∧ (synced none).2.store = (afterSubscribing none).store ∧
      (synced (some "pm_1")).1 = .ok .updated ∧
      (synced (some "pm_1")).2.store.subscriptions = [subscribed none] := by
  have fetched : selling (.getSubscription "sub_1") = .ok unnamed := rfl
  have asked (paymentMethod : Option String) : (afterSubscribing paymentMethod).calls =
      enrolled.calls ++ (afterSubscribing paymentMethod).calls := rfl
  have confirmed := sync_after_change bothSold_distinct (.subscribe "pro" none) ⟨1⟩ enrolled_oneEach
    (yields_subscribed none) (asked none) rfl (carries_subscribed none) (alone_subscribed none) rfl
    fetched ⟨1700000000, 0⟩
  have unconfirmed := sync_after_change bothSold_distinct (.subscribe "pro" (some "pm_1")) ⟨1⟩
    enrolled_oneEach (yields_subscribed _) (asked _) rfl (carries_subscribed _) (alone_subscribed _) rfl
    fetched ⟨1700000000, 0⟩
  obtain ⟨unchanged, same⟩ := confirmed.2.1 (by simp [Change.Unconfirmed, Change.paymentMethod?])
  obtain ⟨updated, dropped⟩ := unconfirmed.2.2 ⟨rfl, rfl⟩
  exact ⟨unchanged, same, updated, congrArg Store.subscriptions dropped⟩

/-- So what an operation has written is not always what a synchronisation would copy. -/
theorem sync_updates_unconfirmed :
    ¬ ∀ (catalog : Catalog) (change : Change) (tenant : Uuid) (answers later : Provider.Answers)
      (before after : Service) (row : Subscription) (remote : Provider.RemoteSubscription)
      (providerId : String),
      catalog.Distinct → Store.OneEach before.store.subscriptions → before.calls = [] →
      (change.attempt catalog tenant).Yields answers before row after →
      Provider.lastReturned? answers after.calls = some remote → change.Carries catalog remote →
      (∀ other ∈ after.store.subscriptions, other.providerId = some remote.id →
        other.tenant = tenant) →
      after.store.isDown .syncSnapshot = false → later (.getSubscription providerId) = .ok remote →
      ((sync catalog providerId).outcome.runWith later after).1 = .ok .unchanged := by
  intro agree
  have unchanged := agree bothSold (.subscribe "pro" (some "pm_1")) ⟨1⟩ selling selling enrolled
    (afterSubscribing (some "pm_1")) (subscribed (some "pm_1")) unnamed "sub_1" bothSold_distinct
    enrolled_oneEach rfl (yields_subscribed _) rfl (carries_subscribed _) (alone_subscribed _)
    rfl rfl
  exact absurd unchanged (by decide +kernel)

end Lifecycle

end UsageBilling
