import UsageBilling.Proofs.Subscription.Links
/-!
The identity of a row: its id, whose it is, and what else is decided once and for all when it is made.
No action changes it. A row that is offered for a tenant that has one is not taken, and what writes over
a row keeps its identity. An operation that returns a row returns one that it has been answered with.
-/
namespace UsageBilling

/-- The row `after` is the row `before` at another time. -/
structure Subscription.SameIdentity (before after : Subscription) : Prop where
  id : after.id = before.id
  tenant : after.tenant = before.tenant
  billingAnchor : after.billingAnchor = before.billingAnchor
  metadata : after.metadata = before.metadata
  createdAt : after.createdAt = before.createdAt

def KeepsIdentities (before after : List Subscription) : Prop :=
  ∀ row ∈ before, ∃ later ∈ after, row.SameIdentity later

def Stands (rows : List Subscription) (tenant : Uuid) (row : Subscription) : Prop :=
  ∃ stored ∈ rows, stored.tenant = tenant ∧ row.SameIdentity stored

/-- The action writes over no row. -/
def Action.IsGentle : Action → Prop
  | .setProviderCustomer .. | .applySnapshot .. | .syncSnapshot _ | .markCanceled _ => False
  | _ => True

namespace Subscription.SameIdentity

variable {first second third : Subscription}

theorem refl (row : Subscription) : row.SameIdentity row := ⟨rfl, rfl, rfl, rfl, rfl⟩

theorem symm (same : first.SameIdentity second) : second.SameIdentity first :=
  ⟨same.id.symm, same.tenant.symm, same.billingAnchor.symm, same.metadata.symm, same.createdAt.symm⟩

theorem trans (earlier : first.SameIdentity second) (later : second.SameIdentity third) :
    first.SameIdentity third where
  id := later.id.trans earlier.id
  tenant := later.tenant.trans earlier.tenant
  billingAnchor := later.billingAnchor.trans earlier.billingAnchor
  metadata := later.metadata.trans earlier.metadata
  createdAt := later.createdAt.trans earlier.createdAt

end Subscription.SameIdentity

section

variable {now : Instant} {action : Action} {before after rows : List Subscription} {tenant : Uuid}

theorem Rewrites.sameIdentity {old row : Subscription} (rewrites : Rewrites now action old row) :
    old.SameIdentity row := by
  have overwritten : ∀ (snapshot : Snapshot), old.SameIdentity (snapshot.apply old now) := by
    intro snapshot
    obtain ⟨moment, applied⟩ := snapshot.apply_eq old now
    rw [applied]
    exact ⟨rfl, rfl, rfl, rfl, rfl⟩
  cases rewrites with
  | customer _ customerId => exact ⟨rfl, rfl, rfl, rfl, rfl⟩
  | snapshot _ snapshot => exact overwritten snapshot
  | sync _ snapshot linked => exact overwritten snapshot
  | cancel => exact ⟨rfl, rfl, rfl, rfl, rfl⟩

theorem Rewrites.not_isGentle {old row : Subscription} (rewrites : Rewrites now action old row) :
    ¬ action.IsGentle := by
  cases rewrites <;> exact id

theorem KeepsIdentities.refl (rows : List Subscription) : KeepsIdentities rows rows :=
  fun row member => ⟨row, member, .refl row⟩

theorem KeepsIdentities.trans {last : List Subscription} (first : KeepsIdentities before after)
    (second : KeepsIdentities after last) : KeepsIdentities before last := by
  intro row member
  obtain ⟨next, present, same⟩ := first row member
  obtain ⟨final, there, still⟩ := second next present
  exact ⟨final, there, same.trans still⟩

theorem RowsAfter.keepsIdentities (rowsAfter : RowsAfter now before action after)
    (oneEach : Store.OneEach before) : KeepsIdentities before after := by
  cases rowsAfter with
  | same => exact .refl before
  | added row inserts absent =>
      exact fun other member => ⟨other, List.mem_append_left _ member, .refl other⟩
  | written old row member rewrites =>
      exact Store.related_putRow Subscription.SameIdentity.refl oneEach member rewrites.tenant
        rewrites.sameIdentity

theorem RowsAfter.isPrefix_of_isGentle (rowsAfter : RowsAfter now before action after)
    (gentle : action.IsGentle) : before <+: after := by
  cases rowsAfter with
  | same => exact List.prefix_refl before
  | added row inserts absent => exact List.prefix_append before [row]
  | written old row member rewrites => exact absurd gentle rewrites.not_isGentle

/-- A row that is offered for a tenant that has one changes nothing. -/
theorem RowsAfter.eq_of_present {fresh present : Subscription}
    (rowsAfter : RowsAfter now before (.insertIfAbsent fresh) after) (member : present ∈ before)
    (own : present.tenant = fresh.tenant) : after = before := by
  cases rowsAfter with
  | same => rfl
  | added row inserts absent =>
      obtain rfl := Action.insertIfAbsent.inj inserts
      exact absurd own (absent present member)
  | written old row found rewrites => cases rewrites

theorem Stands.keeps {row : Subscription} (stands : Stands before tenant row)
    (kept : KeepsIdentities before after) : Stands after tenant row := by
  obtain ⟨stored, member, own, same⟩ := stands
  obtain ⟨later, present, still⟩ := kept stored member
  exact ⟨later, present, still.tenant.trans own, same.trans still⟩

theorem Stands.sameIdentity {row other : Subscription} (oneEach : Store.OneEach rows)
    (stands : Stands rows tenant row) (also : Stands rows tenant other) : row.SameIdentity other := by
  obtain ⟨stored, member, own, same⟩ := stands
  obtain ⟨second, present, theirs, equal⟩ := also
  obtain rfl : stored = second := oneEach.eq member present (own.trans theirs.symm)
  exact same.trans equal.symm

end

def Performed.Answers (tenant : Uuid) (row : Subscription) : Performed → Prop
  | ⟨.findByTenant asked, reply⟩ => asked = tenant ∧ reply = .ok (some row)
  | ⟨.insertIfAbsent fresh, reply⟩ => fresh.tenant = tenant ∧ reply = .ok row
  | ⟨.setProviderCustomer asked _, reply⟩ | ⟨.applySnapshot asked _, reply⟩
  | ⟨.markCanceled asked, reply⟩ => asked = tenant ∧ reply = .ok row
  | _ => False

def Answered (tenant : Uuid) (row : Subscription) (trace : List Performed) : Prop :=
  ∃ performed ∈ trace, performed.Answers tenant row

def replyRules (may : Action → Prop) : Rules (List Performed) where
  allows _ action := may action
  learn trace action reply := trace ++ [⟨action, reply⟩]

section

variable {α β : Type} {tenant : Uuid} {row : Subscription} {trace : List Performed}

theorem Answered.concat (answered : Answered tenant row trace) (performed : Performed) :
    Answered tenant row (trace ++ [performed]) := by
  obtain ⟨other, member, answers⟩ := answered
  exact ⟨other, List.mem_append_left _ member, answers⟩

theorem answered_concat {performed : Performed} (answers : performed.Answers tenant row) :
    Answered tenant row (trace ++ [performed]) := ⟨performed, List.mem_concat_self, answers⟩

theorem Program.obeys_any (program : Program α) (trace : List Performed) :
    program.Obeys (replyRules fun _ => True) trace fun _ _ => True := by
  induction program generalizing trace with
  | done result => trivial
  | step action next ih => exact ⟨trivial, fun reply => ih reply _⟩

namespace Lifecycle

theorem obeys_after {attempt : Attempt α} {next : α → Attempt β} {holds : β → List Performed → Prop}
    (rest : ∀ result trace, (next result).Obeys (replyRules fun _ => True) trace holds) :
    (attempt >>= next).Obeys (replyRules fun _ => True) trace holds := by
  apply Attempt.obeys_bind
  refine Program.Obeys.mono (attempt.outcome.obeys_any trace) fun reply known _ => ?_
  exact fun result _ => rest result known

theorem answered_get {may : Action → Prop} (gentle : ∀ action : Action, action.IsGentle → may action) :
    (get tenant).Obeys (replyRules may) trace (Answered tenant) := by
  apply Attempt.obeys_bind
  apply Attempt.obeys_orFail
  apply Program.obeys_perform (gentle (.findByTenant tenant) trivial)
  rintro _ found rfl
  cases found with
  | some row => exact Attempt.obeys_pure (answered_concat ⟨rfl, rfl⟩)
  | none =>
      apply Attempt.obeys_bind
      apply Attempt.obeys_lift (gentle .now trivial)
      intro now
      apply Attempt.obeys_bind
      apply Attempt.obeys_lift (gentle .newId trivial)
      intro id
      apply Attempt.obeys_bind
      apply Attempt.obeys_orFail
      apply Program.obeys_perform (gentle (.insertIfAbsent _) trivial)
      rintro _ row rfl
      apply Attempt.obeys_bind
      apply Attempt.obeys_lift (gentle (.count _) trivial)
      intro counted
      refine Attempt.obeys_pure (Answered.concat ?_ _)
      exact answered_concat ⟨rfl, rfl⟩

theorem answered_counted {attempt : Attempt Subscription} (operation : Operation)
    (answered : attempt.Obeys (replyRules fun _ => True) trace (Answered tenant)) :
    (do
      let row ← attempt
      countOperation operation
      return row : Attempt Subscription).Obeys (replyRules fun _ => True) trace (Answered tenant) := by
  apply Attempt.obeys_bind
  refine answered.mono fun row trace answered => ?_
  apply Attempt.obeys_bind
  apply Attempt.obeys_lift trivial
  intro counted
  exact Attempt.obeys_pure (answered.concat _)

theorem answered_snapshot (snapshot : Snapshot) (operation : Operation) :
    (do
      let row ← orFail (perform (.applySnapshot tenant snapshot))
      countOperation operation
      return row : Attempt Subscription).Obeys (replyRules fun _ => True) trace (Answered tenant) := by
  apply answered_counted
  refine ⟨trivial, ?_⟩
  rintro _ row rfl
  exact answered_concat ⟨rfl, rfl⟩

theorem answered_createCustomer (tenant : Uuid) (email name : String) :
    (createCustomer tenant email name).Obeys (replyRules fun _ => True) [] (Answered tenant) := by
  apply Attempt.obeys_bind
  refine (answered_get fun _ _ => trivial).mono fun row trace answered => ?_
  split
  · exact Attempt.obeys_pure answered
  · apply obeys_after
    intro customer trace
    apply answered_counted
    refine ⟨trivial, ?_⟩
    rintro _ row rfl
    exact answered_concat ⟨rfl, rfl⟩

theorem answered_subscribe (catalog : Catalog) (tenant : Uuid) (planName : String)
    (paymentMethod : Option String) :
    (subscribe catalog tenant planName paymentMethod).Obeys (replyRules fun _ => True) []
      (Answered tenant) := by
  refine obeys_after fun row trace => obeys_after fun customerId trace => obeys_after ?_
  rintro ⟨terms, priceId⟩ trace
  exact obeys_after fun remote trace => answered_snapshot _ _

theorem answered_changePlan (catalog : Catalog) (tenant : Uuid) (planName : String) :
    (changePlan catalog tenant planName).Obeys (replyRules fun _ => True) [] (Answered tenant) := by
  refine obeys_after fun row trace => obeys_after fun providerId trace => obeys_after ?_
  rintro ⟨terms, priceId⟩ trace
  refine obeys_after fun current trace => obeys_after fun item trace => obeys_after ?_
  exact fun remote trace => answered_snapshot _ _

theorem answered_cancel (catalog : Catalog) (tenant : Uuid) (immediate : Bool) :
    (cancel catalog tenant immediate).Obeys (replyRules fun _ => True) [] (Answered tenant) := by
  apply obeys_after
  intro row trace
  split
  · apply answered_counted
    refine ⟨trivial, ?_⟩
    rintro _ row rfl
    exact answered_concat ⟨rfl, rfl⟩
  · exact obeys_after fun remote trace => answered_snapshot _ _

end Lifecycle

end

end UsageBilling
