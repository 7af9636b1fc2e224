import UsageBilling.Proofs.Webhook.Effects
/-!
Copying a snapshot onto the row that is linked to its subscription. Where no two rows are linked to the
same subscription the order of the rows does not matter, and the copy is what would be written for the
tenant of that row.
-/
namespace UsageBilling

/-- All that the snapshot says stands in the row already. -/
structure Snapshot.Agrees (snapshot : Snapshot) (row : Subscription) : Prop where
  providerId : row.providerId = some snapshot.providerId
  plan : ∀ plan, snapshot.plan = some plan → row.plan = plan.name ∧ row.priceId = snapshot.priceId
  status : row.status = snapshot.status
  periodStart : row.periodStart = snapshot.periodStart
  periodEnd : row.periodEnd = snapshot.periodEnd
  trialStart : row.trialStart = snapshot.trialStart
  trialEnd : row.trialEnd = snapshot.trialEnd
  cancelAt : row.cancelAt = snapshot.cancelAt
  canceledAt : row.canceledAt = snapshot.canceledAt
  cancelAtPeriodEnd : row.cancelAtPeriodEnd = snapshot.cancelAtPeriodEnd
  paymentMethodId : row.paymentMethodId = snapshot.paymentMethodId

theorem Snapshot.Agrees.of_overwrite {snapshot : Snapshot} {row : Subscription}
    (same : snapshot.overwrite row = row) : snapshot.Agrees row where
  providerId := congrArg Subscription.providerId same.symm
  plan := by
    intro plan named
    have name := congrArg Subscription.plan same.symm
    have price := congrArg Subscription.priceId same.symm
    simp only [overwrite, named] at name price
    exact ⟨name, price⟩
  status := congrArg Subscription.status same.symm
  periodStart := congrArg Subscription.periodStart same.symm
  periodEnd := congrArg Subscription.periodEnd same.symm
  trialStart := congrArg Subscription.trialStart same.symm
  trialEnd := congrArg Subscription.trialEnd same.symm
  cancelAt := congrArg Subscription.cancelAt same.symm
  canceledAt := congrArg Subscription.canceledAt same.symm
  cancelAtPeriodEnd := congrArg Subscription.cancelAtPeriodEnd same.symm
  paymentMethodId := congrArg Subscription.paymentMethodId same.symm

theorem Snapshot.Agrees.overwrite {snapshot : Snapshot} {row : Subscription}
    (agrees : snapshot.Agrees row) : snapshot.overwrite row = row := by
  have plan : (snapshot.overwrite row).plan = row.plan ∧
      (snapshot.overwrite row).priceId = row.priceId := by
    cases named : snapshot.plan with
    | none => simp [Snapshot.overwrite, named]
    | some plan =>
        obtain ⟨name, price⟩ := agrees.plan plan named
        simp [Snapshot.overwrite, named, name, price]
  cases row
  exact Subscription.mk.injEq .. ▸ ⟨rfl, rfl, rfl, agrees.providerId.symm, plan.2, plan.1,
    agrees.status.symm, rfl, agrees.periodStart.symm, agrees.periodEnd.symm, agrees.trialStart.symm,
    agrees.trialEnd.symm, agrees.cancelAt.symm, agrees.canceledAt.symm, agrees.cancelAtPeriodEnd.symm,
    agrees.paymentMethodId.symm, rfl, rfl, rfl⟩

theorem Snapshot.changes_eq_false_iff {snapshot : Snapshot} {row : Subscription} :
    snapshot.changes row = false ↔ snapshot.Agrees row := by
  unfold changes
  rw [decide_eq_false_iff_not, not_not]
  exact ⟨.of_overwrite, Agrees.overwrite⟩

theorem Snapshot.changes_iff {snapshot : Snapshot} {row : Subscription} :
    snapshot.changes row = true ↔ ¬ snapshot.Agrees row := by
  rw [← changes_eq_false_iff, Bool.not_eq_false]

theorem Snapshot.apply_of_agrees {snapshot : Snapshot} {row : Subscription}
    (agrees : snapshot.Agrees row) (now : Instant) : snapshot.apply row now = row := by
  simp [apply, changes_eq_false_iff.mpr agrees]

theorem Snapshot.agrees_apply (snapshot : Snapshot) (row : Subscription) (now : Instant) :
    snapshot.Agrees (snapshot.apply row now) := by
  obtain ⟨moment, applied⟩ := snapshot.apply_eq row now
  rw [applied]
  refine ⟨rfl, fun plan named => ?_, rfl, rfl, rfl, rfl, rfl, rfl, rfl, rfl, rfl⟩
  simp [Snapshot.overwrite, named]

namespace Store

/-- What copying a snapshot comes to, and what it leaves of the store. -/
structure Synced (store : Store) (snapshot : Snapshot) (now : Instant) (outcome : SyncOutcome)
    (after : Store) : Prop where
  notFound : outcome = .notFound ↔
    ∀ row ∈ store.subscriptions, row.providerId ≠ some snapshot.providerId
  unchanged : outcome = .unchanged ↔
    ∃ row ∈ store.subscriptions, row.providerId = some snapshot.providerId ∧ snapshot.Agrees row
  updated : outcome = .updated ↔
    ∃ row ∈ store.subscriptions, row.providerId = some snapshot.providerId ∧ ¬ snapshot.Agrees row
  kept : outcome ≠ .updated → after = store
  /-- The linked row is what the snapshot makes of it, and the other rows are what they were. -/
  written : ∀ row ∈ store.subscriptions, row.providerId = some snapshot.providerId → after =
    { store with subscriptions := store.subscriptions.map (replacedBy (snapshot.apply row now)) }
  asApplied : ∀ row ∈ store.subscriptions, row.providerId = some snapshot.providerId →
    store.isDown .applySnapshot = false →
    store.applySnapshot row.tenant snapshot now = (.ok (snapshot.apply row now), after)

def SameButOrder (left right : Store) : Prop :=
  ∃ rows, rows.Perm right.subscriptions ∧ left = { right with subscriptions := rows }

section

variable {store left right : Store} {snapshot : Snapshot} {row : Subscription} {now : Instant}

theorem rowOf?_eq_some (oneEach : OneEach store.subscriptions) (member : row ∈ store.subscriptions) :
    store.rowOf? row.tenant = some row := by
  cases found : store.rowOf? row.tenant with
  | none => exact absurd rfl (absent_of_rowOf? found row member)
  | some other =>
      obtain ⟨present, own⟩ := mem_of_rowOf? found
      rw [oneEach.eq present member own]

theorem put_eq (oneEach : OneEach store.subscriptions) (member : row ∈ store.subscriptions) :
    store.put (snapshot.apply row now) =
      { store with subscriptions := store.subscriptions.map (replacedBy (snapshot.apply row now)) } := by
  unfold put
  rw [putRow_of_mem oneEach member (snapshot.tenant_apply row now).symm]

theorem map_replacedBy_self (oneEach : OneEach store.subscriptions) (member : row ∈ store.subscriptions) :
    store.subscriptions.map (replacedBy row) = store.subscriptions := by
  calc
    store.subscriptions.map (replacedBy row) = store.subscriptions.map id := by
      apply List.map_congr_left
      intro other present
      unfold replacedBy
      split
      · next same => exact oneEach.eq member present same.symm
      · rfl
    _ = store.subscriptions := List.map_id _

theorem syncSnapshot_of_found (oneEach : OneEach store.subscriptions)
    (working : store.isDown .syncSnapshot = false)
    (found : store.linkedRow? snapshot.providerId = some row) :
    store.syncSnapshot snapshot now =
      (.ok (if snapshot.changes row then .updated else .unchanged),
        { store with
          subscriptions := store.subscriptions.map (replacedBy (snapshot.apply row now)) }) := by
  unfold syncSnapshot
  rw [guarded_ok working, found]
  dsimp only
  rw [put_eq oneEach (mem_of_linkedRow? found).1]

theorem syncSnapshot_of_agrees (oneEach : OneEach store.subscriptions)
    (working : store.isDown .syncSnapshot = false)
    (found : store.linkedRow? snapshot.providerId = some row) (agrees : snapshot.Agrees row) :
    store.syncSnapshot snapshot now = (.ok .unchanged, store) := by
  have unchanged := Snapshot.changes_eq_false_iff.mpr agrees
  rw [syncSnapshot_of_found oneEach working found, Snapshot.apply_of_agrees agrees,
    map_replacedBy_self oneEach (mem_of_linkedRow? found).1, unchanged]
  rfl

theorem syncSnapshot_of_changes (working : store.isDown .syncSnapshot = false)
    (found : store.linkedRow? snapshot.providerId = some row) (changes : snapshot.changes row = true) :
    store.syncSnapshot snapshot now = (.ok .updated, store.put (snapshot.apply row now)) := by
  unfold syncSnapshot
  rw [guarded_ok working, found]
  dsimp only
  rw [if_pos changes]

theorem syncSnapshot_eq (linkedOnce : LinkedOnce store.subscriptions)
    (oneEach : OneEach store.subscriptions) (working : store.isDown .syncSnapshot = false)
    (member : row ∈ store.subscriptions) (linked : row.providerId = some snapshot.providerId) :
    store.syncSnapshot snapshot now =
      (.ok (if snapshot.changes row then .updated else .unchanged),
        { store with
          subscriptions := store.subscriptions.map (replacedBy (snapshot.apply row now)) }) :=
  syncSnapshot_of_found oneEach working (linkedRow?_eq_some linkedOnce member linked)

theorem linkedRow?_eq_none
    (unlinked : ∀ row ∈ store.subscriptions, row.providerId ≠ some snapshot.providerId) :
    store.linkedRow? snapshot.providerId = none := by
  apply List.find?_eq_none.mpr
  intro row member
  simpa using unlinked row member

theorem applySnapshot_eq (oneEach : OneEach store.subscriptions)
    (working : store.isDown .applySnapshot = false) (member : row ∈ store.subscriptions) :
    store.applySnapshot row.tenant snapshot now = (.ok (snapshot.apply row now),
      { store with
        subscriptions := store.subscriptions.map (replacedBy (snapshot.apply row now)) }) := by
  unfold applySnapshot update
  rw [guarded_ok working, rowOf?_eq_some oneEach member]
  dsimp only
  rw [put_eq oneEach member]

theorem synced_linked (oneEach : OneEach store.subscriptions)
    (linkedOnce : LinkedOnce store.subscriptions) (member : row ∈ store.subscriptions)
    (linked : row.providerId = some snapshot.providerId) :
    Synced store snapshot now (if snapshot.changes row then .updated else .unchanged)
      { store with
        subscriptions := store.subscriptions.map (replacedBy (snapshot.apply row now)) } := by
  have only : ∀ other ∈ store.subscriptions, other.providerId = some snapshot.providerId →
      other = row := fun other present own => linkedOnce other present row member _ own linked
  have agreement : snapshot.changes row = false ↔ snapshot.Agrees row := Snapshot.changes_eq_false_iff
  refine ⟨⟨?_, fun unlinked => absurd linked (unlinked row member)⟩, ⟨?_, ?_⟩, ⟨?_, ?_⟩, ?_, ?_, ?_⟩
  · intro same
    split at same <;> cases same
  · intro same
    split at same
    · cases same
    · next unchanged => exact ⟨row, member, linked, agreement.mp (by simpa using unchanged)⟩
  · rintro ⟨other, present, own, agrees⟩
    rw [only other present own] at agrees
    rw [agreement.mpr agrees]
    rfl
  · intro same
    split at same
    · next changed => exact ⟨row, member, linked, fun agrees => by simp [agreement.mpr agrees] at changed⟩
    · cases same
  · rintro ⟨other, present, own, differs⟩
    rw [only other present own] at differs
    exact if_pos (by simpa using mt agreement.mp differs)
  · intro kept
    have unchanged : snapshot.changes row = false := by
      by_contra changed
      exact kept (if_pos (by simpa using changed))
    rw [Snapshot.apply_of_agrees (agreement.mp unchanged), map_replacedBy_self oneEach member]
  · intro other present own
    rw [only other present own]
  · intro other present own working
    rw [only other present own]
    exact applySnapshot_eq oneEach working member

theorem synced_unlinked
    (unlinked : ∀ row ∈ store.subscriptions, row.providerId ≠ some snapshot.providerId) :
    Synced store snapshot now .notFound store where
  notFound := ⟨fun _ => unlinked, fun _ => rfl⟩
  unchanged := ⟨nofun, fun ⟨row, member, linked, _⟩ => absurd linked (unlinked row member)⟩
  updated := ⟨nofun, fun ⟨row, member, linked, _⟩ => absurd linked (unlinked row member)⟩
  kept := fun _ => rfl
  written := fun row member linked => absurd linked (unlinked row member)
  asApplied := fun row member linked => absurd linked (unlinked row member)

theorem syncSnapshot_synced (oneEach : OneEach store.subscriptions)
    (linkedOnce : LinkedOnce store.subscriptions) (working : store.isDown .syncSnapshot = false) :
    ∃ outcome after, store.syncSnapshot snapshot now = (.ok outcome, after) ∧
      Synced store snapshot now outcome after := by
  by_cases found : ∃ row ∈ store.subscriptions, row.providerId = some snapshot.providerId
  · obtain ⟨row, member, linked⟩ := found
    exact ⟨_, _, syncSnapshot_eq linkedOnce oneEach working member linked,
      synced_linked oneEach linkedOnce member linked⟩
  · push Not at found
    refine ⟨.notFound, store, ?_, synced_unlinked found⟩
    unfold syncSnapshot
    rw [guarded_ok working, linkedRow?_eq_none found]

theorem syncSnapshot_sameButOrder (oneEach : OneEach right.subscriptions)
    (linkedOnce : LinkedOnce right.subscriptions) (same : SameButOrder left right) :
    (left.syncSnapshot snapshot now).1 = (right.syncSnapshot snapshot now).1 ∧
      SameButOrder (left.syncSnapshot snapshot now).2 (right.syncSnapshot snapshot now).2 := by
  obtain ⟨rows, order, rest⟩ := same
  have perm : left.subscriptions.Perm right.subscriptions := by rwa [rest]
  have outage : left.isDown .syncSnapshot = right.isDown .syncSnapshot := by rw [rest]; rfl
  have eachOnce : OneEach left.subscriptions := (perm.map Subscription.tenant).nodup_iff.mpr oneEach
  have onceLinked : LinkedOnce left.subscriptions := fun row member other present =>
    linkedOnce row (perm.mem_iff.mp member) other (perm.mem_iff.mp present)
  cases down : right.isDown .syncSnapshot with
  | true =>
      unfold syncSnapshot
      rw [guarded_error down, guarded_error (outage.trans down)]
      exact ⟨rfl, rows, order, rest⟩
  | false =>
      have working := outage.trans down
      by_cases found : ∃ row ∈ right.subscriptions, row.providerId = some snapshot.providerId
      · obtain ⟨row, member, linked⟩ := found
        rw [syncSnapshot_eq linkedOnce oneEach down member linked,
          syncSnapshot_eq onceLinked eachOnce working (perm.mem_iff.mpr member) linked]
        refine ⟨rfl, _, perm.map _, ?_⟩
        rw [rest]
      · push Not at found
        have unlinked : ∀ row ∈ left.subscriptions, row.providerId ≠ some snapshot.providerId :=
          fun row member => found row (perm.mem_iff.mp member)
        unfold syncSnapshot
        rw [guarded_ok down, guarded_ok working, linkedRow?_eq_none found, linkedRow?_eq_none unlinked]
        exact ⟨rfl, rows, order, rest⟩

end

end Store

end UsageBilling
