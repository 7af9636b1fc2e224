import UsageBilling.Proofs.Service.Rows
import UsageBilling.Subscription.Lifecycle
/-!
The links of a row to the billing provider: its customer, its subscription and its price. Each needs the
one before it, and the price is the one of the plan. Shown here: what each way to write a row makes of
them.
-/
namespace UsageBilling

namespace Subscription

/-- Plan and price belong together, and no link stands without the one that it needs. -/
structure Consistent (catalog : Catalog) (row : Subscription) : Prop where
  priced : ∃ plan : Plan, row.plan = plan.name ∧ row.priceId = catalog.priceOf plan ∧
    (row.priceId = none ↔ plan = .free)
  subscribed : row.priceId.isSome → row.providerId.isSome
  customer : row.providerId.isSome → row.customerId.isSome

structure KeepsLinks (before after : Subscription) : Prop where
  tenant : after.tenant = before.tenant
  price : before.priceId.isSome → after.priceId.isSome
  provider : before.providerId.isSome → after.providerId.isSome
  customer : before.customerId.isSome → after.customerId.isSome

theorem KeepsLinks.refl (row : Subscription) : row.KeepsLinks row :=
  ⟨rfl, fun present => present, fun present => present, fun present => present⟩

theorem KeepsLinks.trans {first second third : Subscription} (earlier : first.KeepsLinks second)
    (later : second.KeepsLinks third) : first.KeepsLinks third where
  tenant := later.tenant.trans earlier.tenant
  price := later.price ∘ earlier.price
  provider := later.provider ∘ earlier.provider
  customer := later.customer ∘ earlier.customer

theorem consistent_freeTier (catalog : Catalog) (id tenant : Uuid) (now : Instant) :
    (freeTier id tenant now).Consistent catalog where
  priced := ⟨.free, rfl, rfl, fun _ => rfl, fun _ => rfl⟩
  subscribed := fun priced => absurd priced Bool.false_ne_true
  customer := fun subscribed => absurd subscribed Bool.false_ne_true

end Subscription

namespace Snapshot

/-- A plan stands in the snapshot only with its price, and only if it has one. -/
def Priced (catalog : Catalog) (snapshot : Snapshot) : Prop :=
  ∀ plan, snapshot.plan = some plan → ∃ priceId,
    catalog.priceOf plan = some priceId ∧ snapshot.priceId = some priceId

theorem apply_eq (snapshot : Snapshot) (row : Subscription) (now : Instant) :
    ∃ moment, snapshot.apply row now = { snapshot.overwrite row with updatedAt := moment } := by
  unfold apply
  by_cases changes : snapshot.changes row = true
  · exact ⟨now, if_pos changes⟩
  · have same : snapshot.overwrite row = row := by simpa [Snapshot.changes] using changes
    refine ⟨row.updatedAt, ?_⟩
    rw [if_neg changes]
    exact same.symm

variable {catalog : Catalog} {snapshot : Snapshot} {row : Subscription}

theorem consistent_overwrite (priced : snapshot.Priced catalog) (consistent : row.Consistent catalog)
    (customer : row.customerId.isSome) : (snapshot.overwrite row).Consistent catalog where
  priced := by
    cases named : snapshot.plan with
    | some plan =>
        obtain ⟨priceId, sold, price⟩ := priced plan named
        refine ⟨plan, by simp [overwrite, named], ?_, ?_⟩
        · simp [overwrite, named, sold, price]
        · have paid : plan ≠ .free := by
            rintro rfl
            exact absurd sold (Option.some_ne_none priceId).symm
          simp [overwrite, named, price, paid]
    | none =>
        obtain ⟨plan, name, price, free⟩ := consistent.priced
        exact ⟨plan, by simp [overwrite, named, name], by simp [overwrite, named, price],
          by simpa [overwrite, named] using free⟩
  subscribed := fun _ => rfl
  customer := fun _ => customer

theorem keepsLinks_overwrite (priced : snapshot.Priced catalog) :
    row.KeepsLinks (snapshot.overwrite row) where
  tenant := rfl
  price := by
    intro present
    cases named : snapshot.plan with
    | some plan =>
        obtain ⟨priceId, _, price⟩ := priced plan named
        simp [overwrite, named, price]
    | none => simpa [overwrite, named] using present
  provider := fun _ => rfl
  customer := id

theorem consistent_apply (priced : snapshot.Priced catalog) (consistent : row.Consistent catalog)
    (customer : row.customerId.isSome) (now : Instant) :
    (snapshot.apply row now).Consistent catalog := by
  obtain ⟨moment, applied⟩ := snapshot.apply_eq row now
  have written := consistent_overwrite priced consistent customer
  rw [applied]
  exact ⟨written.priced, written.subscribed, written.customer⟩

theorem keepsLinks_apply (priced : snapshot.Priced catalog) (row : Subscription) (now : Instant) :
    row.KeepsLinks (snapshot.apply row now) := by
  obtain ⟨moment, applied⟩ := snapshot.apply_eq row now
  have kept : row.KeepsLinks (snapshot.overwrite row) := keepsLinks_overwrite priced
  rw [applied]
  exact ⟨kept.tenant, kept.price, kept.provider, kept.customer⟩

theorem priced_ofRemote {remote : Provider.RemoteSubscription} {sold : Option (Plan × String)}
    (priced : ∀ plan priceId, sold = some (plan, priceId) → catalog.priceOf plan = some priceId) :
    (ofRemote remote sold).Priced catalog := by
  intro plan named
  cases sold with
  | none => cases named
  | some pair =>
      obtain rfl : pair.1 = plan := Option.some.inj named
      exact ⟨pair.2, priced pair.1 pair.2 rfl, rfl⟩

end Snapshot

namespace Catalog

variable {catalog : Catalog}

theorem plan_terms (catalog : Catalog) (plan : Plan) : (catalog.terms plan).plan = plan := by
  cases plan <;> rfl

theorem priceId_terms (catalog : Catalog) (plan : Plan) :
    (catalog.terms plan).priceId = catalog.priceOf plan := by
  cases plan <;> rfl

theorem priceOf_of_pricedPlan {name : String} {terms : PlanTerms} {priceId : String}
    (sold : catalog.pricedPlan name = .ok (terms, priceId)) :
    catalog.priceOf terms.plan = some priceId := by
  unfold pricedPlan at sold
  split at sold
  · cases sold
  · next found =>
      split at sold
      · cases sold
      · next price =>
          obtain ⟨rfl, rfl⟩ := Prod.mk.inj (Except.ok.inj sold)
          obtain ⟨plan, _, rfl⟩ := Option.map_eq_some_iff.mp found
          rw [plan_terms, ← priceId_terms, price]

theorem priceOf_of_planOf {remote : Provider.RemoteSubscription} {plan : Plan} {priceId : String}
    (found : catalog.planOf remote = some (plan, priceId)) : catalog.priceOf plan = some priceId := by
  obtain ⟨price, _, rest⟩ := Option.bind_eq_some_iff.mp found
  obtain ⟨sold, located, same⟩ := Option.bind_eq_some_iff.mp rest
  obtain ⟨rfl, rfl⟩ := Prod.mk.inj (Option.some.inj same)
  simpa using List.find?_some located

end Catalog

end UsageBilling
