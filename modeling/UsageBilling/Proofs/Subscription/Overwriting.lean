import UsageBilling.Proofs.Store.Syncing
/-!
Snapshots copied onto a row one after the other. The last one decides the fields that every snapshot
writes, the last one that names a plan decides plan and price, and the last one that changed the row
decides when the row was updated. A snapshot that comes again at once changes nothing.
-/
namespace UsageBilling

theorem Subscription.KeepsOwn.refl (row : Subscription) : row.KeepsOwn row :=
  ⟨rfl, rfl, rfl, rfl, rfl, rfl⟩

theorem Subscription.KeepsOwn.trans {first second third : Subscription} (early : first.KeepsOwn second)
    (late : second.KeepsOwn third) : first.KeepsOwn third where
  id := late.id.trans early.id
  tenant := late.tenant.trans early.tenant
  customerId := late.customerId.trans early.customerId
  billingAnchor := late.billingAnchor.trans early.billingAnchor
  metadata := late.metadata.trans early.metadata
  createdAt := late.createdAt.trans early.createdAt

namespace Snapshot

def applyAll (history : List (Snapshot × Instant)) (row : Subscription) : Subscription :=
  history.foldl (fun row entry => entry.1.apply row entry.2) row

def flags : List (Snapshot × Instant) → Subscription → List Bool
  | [], _ => []
  | (snapshot, now) :: later, row => snapshot.changes row :: flags later (snapshot.apply row now)

def stamps (history : List (Snapshot × Instant)) (row : Subscription) : List Instant :=
  ((history.zip (flags history row)).filter fun (_, changed) => changed).map fun (entry, _) => entry.2

def terms? (snapshot : Snapshot) : Option (String × Option String) :=
  snapshot.plan.map fun plan => (plan.name, snapshot.priceId)

variable {snapshot : Snapshot} {row : Subscription}

@[simp] theorem applyAll_cons (entry : Snapshot × Instant) (later : List (Snapshot × Instant))
    (row : Subscription) :
    applyAll (entry :: later) row = applyAll later (entry.1.apply row entry.2) := rfl

theorem applyAll_append (early late : List (Snapshot × Instant)) (row : Subscription) :
    applyAll (early ++ late) row = applyAll late (applyAll early row) := by
  simp [applyAll]

theorem flags_append (early late : List (Snapshot × Instant)) (row : Subscription) :
    flags (early ++ late) row = flags early row ++ flags late (applyAll early row) := by
  induction early generalizing row with
  | nil => rfl
  | cons entry rest ih => simp [flags, ih]

@[simp] theorem length_flags (history : List (Snapshot × Instant)) (row : Subscription) :
    (flags history row).length = history.length := by
  induction history generalizing row with
  | nil => rfl
  | cons entry rest ih => simp [flags, ih]

theorem terms_apply (snapshot : Snapshot) (row : Subscription) (now : Instant) :
    ((snapshot.apply row now).plan, (snapshot.apply row now).priceId) =
      snapshot.terms?.getD (row.plan, row.priceId) := by
  obtain ⟨moment, applied⟩ := snapshot.apply_eq row now
  rw [applied]
  cases named : snapshot.plan with
  | none => simp [terms?, overwrite, named]
  | some plan => simp [terms?, overwrite, named]

theorem updatedAt_apply (snapshot : Snapshot) (row : Subscription) (now : Instant) :
    (snapshot.apply row now).updatedAt = if snapshot.changes row then now else row.updatedAt := by
  unfold apply
  split <;> rfl

theorem terms_applyAll (history : List (Snapshot × Instant)) (row : Subscription) :
    ((applyAll history row).plan, (applyAll history row).priceId) =
      (history.filterMap fun entry => entry.1.terms?).getLastD (row.plan, row.priceId) := by
  induction history generalizing row with
  | nil => rfl
  | cons entry rest ih =>
      rw [applyAll_cons, ih, terms_apply]
      cases named : entry.1.terms? with
      | none => simp [named]
      | some terms => simp only [List.filterMap_cons, named, List.getLastD_cons, Option.getD_some]

theorem stamps_cons (entry : Snapshot × Instant) (later : List (Snapshot × Instant))
    (row : Subscription) : stamps (entry :: later) row =
      if entry.1.changes row then entry.2 :: stamps later (entry.1.apply row entry.2)
      else stamps later (entry.1.apply row entry.2) := by
  simp only [stamps, flags, List.zip_cons_cons, List.filter_cons]
  split <;> rfl

theorem updatedAt_applyAll (history : List (Snapshot × Instant)) (row : Subscription) :
    (applyAll history row).updatedAt = (stamps history row).getLastD row.updatedAt := by
  induction history generalizing row with
  | nil => rfl
  | cons entry rest ih =>
      rw [applyAll_cons, ih, updatedAt_apply, stamps_cons]
      split
      · rw [List.getLastD_cons]
      · rfl

theorem keepsOwn_applyAll (history : List (Snapshot × Instant)) (row : Subscription) :
    row.KeepsOwn (applyAll history row) := by
  induction history generalizing row with
  | nil => exact .refl row
  | cons entry rest ih => exact (keepsOwn_apply entry.1 row entry.2).trans (ih _)

theorem agrees_applyAll (early : List (Snapshot × Instant)) (last : Snapshot × Instant)
    (row : Subscription) : last.1.Agrees (applyAll (early ++ [last]) row) := by
  rw [applyAll_append]
  exact agrees_apply last.1 _ last.2

theorem repeated_of_agrees (agrees : snapshot.Agrees row) (times : List Instant) :
    applyAll (times.map fun now => (snapshot, now)) row = row ∧
      flags (times.map fun now => (snapshot, now)) row = List.replicate times.length false := by
  induction times with
  | nil => exact ⟨rfl, rfl⟩
  | cons now rest ih =>
      simpa [flags, apply_of_agrees agrees, changes_eq_false_iff.mpr agrees, List.replicate_succ]
        using ih

/-- What a history of snapshots makes of a row. The row agrees with the last snapshot; its plan and price
are those of the last one that names a plan; it was updated when a snapshot last changed it; and all else
is as it was. A snapshot changes the row exactly if the row does not agree with it at that point, so the
last one, copied again any number of times and whenever, changes nothing. -/
theorem snapshots_replayed (row : Subscription) (history : List (Snapshot × Instant))
    {last : Snapshot} {time : Instant} (ends : history.getLast? = some (last, time)) :
    let after := applyAll history row
    last.Agrees after ∧
    (after.plan, after.priceId) =
      (history.filterMap fun entry => entry.1.terms?).getLastD (row.plan, row.priceId) ∧
    after.updatedAt = (stamps history row).getLastD row.updatedAt ∧
    row.KeepsOwn after ∧
    (flags history row).length = history.length ∧
    (∀ early snapshot now late, history = early ++ (snapshot, now) :: late →
      ((flags history row)[early.length]? = some true ↔ ¬ snapshot.Agrees (applyAll early row))) ∧
    ∀ times : List Instant,
      applyAll (history ++ times.map fun now => (last, now)) row = after ∧
      flags (history ++ times.map fun now => (last, now)) row =
        flags history row ++ List.replicate times.length false := by
  intro after
  have agrees : last.Agrees after := by
    obtain ⟨early, rfl⟩ := List.getLast?_eq_some_iff.mp ends
    exact agrees_applyAll early (last, time) row
  refine ⟨agrees, terms_applyAll history row, updatedAt_applyAll history row,
    keepsOwn_applyAll history row, length_flags history row, ?_, fun times => ?_⟩
  · rintro early snapshot now late rfl
    rw [flags_append, ← length_flags early row, List.getElem?_append_right (Nat.le_refl _)]
    simp [flags, changes_iff]
  · obtain ⟨same, unchanged⟩ := repeated_of_agrees agrees times
    rw [applyAll_append, flags_append]
    exact ⟨same, by rw [unchanged]⟩

def upgrade : Snapshot where
  providerId := "sub_1"
  priceId := some "price_pro"
  plan := some .pro
  status := "active"
  periodStart := some ⟨1700000000, 0⟩
  periodEnd := some ⟨1702592000, 0⟩
  trialStart := none
  trialEnd := none
  cancelAt := none
  canceledAt := none
  cancelAtPeriodEnd := false
  paymentMethodId := none

def overdue : Snapshot :=
  { upgrade with priceId := some "price_old", plan := none, status := "past_due" }

def delivered : List (Snapshot × Instant) :=
  [(upgrade, ⟨100, 0⟩), (upgrade, ⟨200, 0⟩), (overdue, ⟨300, 0⟩)]

theorem snapshots_replayed_delivered :
    let row := Subscription.freeTier ⟨1⟩ ⟨7⟩ ⟨0, 0⟩
    let after := applyAll delivered row
    delivered.getLast? = some (overdue, ⟨300, 0⟩) ∧ after.status = "past_due" ∧ after.plan = "pro" ∧
      after.priceId = some "price_pro" ∧ after.updatedAt = ⟨300, 0⟩ ∧ after.createdAt = ⟨0, 0⟩ ∧
      flags (delivered ++ [(overdue, ⟨400, 0⟩), (overdue, ⟨250, 0⟩)]) row =
        [true, false, true, false, false] := by
  intro row after
  have ends : delivered.getLast? = some (overdue, ⟨300, 0⟩) := rfl
  have changed : flags delivered row = [true, false, true] := by decide
  obtain ⟨agrees, terms, updated, own, -, -, again⟩ := snapshots_replayed row delivered ends
  have times : stamps delivered row = [⟨100, 0⟩, ⟨300, 0⟩] := by
    simp only [stamps, changed]
    rfl
  obtain ⟨plan, priceId⟩ := Prod.mk.inj terms
  refine ⟨ends, agrees.status, plan, priceId, ?_, own.createdAt, ?_⟩
  · rw [updated, times]
    rfl
  · exact (again [⟨400, 0⟩, ⟨250, 0⟩]).2.trans (by rw [changed]; rfl)

end Snapshot

end UsageBilling
