import Mathlib.Data.List.Nodup
import Mathlib.Data.List.Pairwise
import UsageBilling.Proofs.Store.Contents
/-!
Subscription rows as a map from tenants: what `putRow` does to it, and what the methods of the store
find and write.
-/
namespace UsageBilling

theorem eq_of_mem_filterMap {α β : Type} {read : α → Option β} {values : List α} {first second : α}
    {result : β} (nodup : (values.filterMap read).Nodup) (member : first ∈ values)
    (present : second ∈ values) (reads : read first = some result) (also : read second = some result) :
    first = second := by
  have symmetric : Std.Symm fun first second =>
      ∀ result, read first = some result → ∀ other, read second = some other → result ≠ other :=
    ⟨fun first second apart result reads other also => (apart other also result reads).symm⟩
  by_contra different
  exact (List.pairwise_filterMap.mp nodup).forall member present different result reads result also rfl

namespace Store

def OneEach (rows : List Subscription) : Prop := (rows.map (·.tenant)).Nodup

def replacedBy (written row : Subscription) : Subscription :=
  if row.tenant = written.tenant then written else row

section

variable {rows : List Subscription} {row other old : Subscription} {store : Store}

theorem OneEach.eq (oneEach : OneEach rows) (member : row ∈ rows) (present : other ∈ rows)
    (same : row.tenant = other.tenant) : row = other :=
  List.inj_on_of_nodup_map oneEach member present same

theorem putRow_of_absent (absent : ∀ other ∈ rows, other.tenant ≠ row.tenant) :
    putRow row rows = rows ++ [row] := by
  induction rows with
  | nil => rfl
  | cons head tail ih =>
      rw [putRow, if_neg (absent head List.mem_cons_self), List.cons_append,
        ih fun other member => absent other (List.mem_cons_of_mem head member)]

theorem map_replacedBy_of_absent (absent : ∀ other ∈ rows, other.tenant ≠ row.tenant) :
    rows.map (replacedBy row) = rows := by
  calc
    rows.map (replacedBy row) = rows.map id :=
      List.map_congr_left fun other member => if_neg (absent other member)
    _ = rows := List.map_id rows

theorem putRow_of_mem (oneEach : OneEach rows) (member : old ∈ rows) (same : old.tenant = row.tenant) :
    putRow row rows = rows.map (replacedBy row) := by
  induction rows with
  | nil => cases member
  | cons head tail ih =>
      obtain ⟨fresh, rest⟩ := List.nodup_cons.mp oneEach
      by_cases own : head.tenant = row.tenant
      · have absent : ∀ other ∈ tail, other.tenant ≠ row.tenant := by
          intro other found equal
          exact fresh (List.mem_map.mpr ⟨other, found, equal.trans own.symm⟩)
        rw [putRow, if_pos own, List.map_cons, map_replacedBy_of_absent absent, replacedBy, if_pos own]
      · have later : old ∈ tail := by
          rcases List.mem_cons.mp member with rfl | later
          · exact absurd same own
          · exact later
        rw [putRow, if_neg own, List.map_cons, ih rest later, replacedBy, if_neg own]

theorem tenant_replacedBy (written row : Subscription) : (replacedBy written row).tenant = row.tenant := by
  unfold replacedBy
  split
  · next same => exact same.symm
  · rfl

theorem oneEach_map_replacedBy (oneEach : OneEach rows) (row : Subscription) :
    OneEach (rows.map (replacedBy row)) := by
  have tenants : (·.tenant) ∘ replacedBy row = (·.tenant) := funext (tenant_replacedBy row)
  unfold OneEach
  rw [List.map_map, tenants]
  exact oneEach

theorem oneEach_append (oneEach : OneEach rows) (absent : ∀ other ∈ rows, other.tenant ≠ row.tenant) :
    OneEach (rows ++ [row]) := by
  unfold OneEach
  rw [List.map_append]
  refine List.nodup_append.mpr ⟨oneEach, List.nodup_singleton _, ?_⟩
  intro tenant member last single
  obtain ⟨other, found, rfl⟩ := List.mem_map.mp member
  rw [List.map_singleton, List.mem_singleton] at single
  exact single ▸ absent other found

theorem mem_of_rowOf? {tenant : Uuid} (found : store.rowOf? tenant = some row) :
    row ∈ store.subscriptions ∧ row.tenant = tenant :=
  ⟨List.mem_of_find?_eq_some found, by simpa using List.find?_some found⟩

theorem absent_of_rowOf? {tenant : Uuid} (missing : store.rowOf? tenant = none) :
    ∀ other ∈ store.subscriptions, other.tenant ≠ tenant := by
  intro other member
  simpa using List.find?_eq_none.mp missing other member

theorem mem_of_linkedRow? {providerId : String} (found : store.linkedRow? providerId = some row) :
    row ∈ store.subscriptions ∧ row.providerId = some providerId :=
  ⟨List.mem_of_find?_eq_some found, by simpa using List.find?_some found⟩

theorem rowOf?_put (store : Store) (row : Subscription) :
    (store.put row).rowOf? row.tenant = some row := by
  unfold rowOf? put
  dsimp only
  induction store.subscriptions with
  | nil => simp [putRow]
  | cons other rows ih =>
      rw [putRow]
      split
      · simp
      · next different => rw [List.find?_cons_of_neg (by simpa using different), ih]

/-- A row is found by its subscription where no other row is linked to that. -/
theorem linkedRow?_of_only {providerId : String} (member : row ∈ store.subscriptions)
    (linked : row.providerId = some providerId)
    (only : ∀ other ∈ store.subscriptions, other.providerId = some providerId → other = row) :
    store.linkedRow? providerId = some row := by
  cases found : store.linkedRow? providerId with
  | none =>
      have other := List.find?_eq_none.mp found row member
      exact absurd linked (by simpa using other)
  | some other =>
      obtain ⟨present, own⟩ := mem_of_linkedRow? found
      rw [only other present own]

theorem mem_of_findByTenant {tenant : Uuid} (found : store.findByTenant tenant = .ok (some row)) :
    row ∈ store.subscriptions ∧ row.tenant = tenant := by
  unfold findByTenant guarded at found
  split at found
  · cases found
  · exact mem_of_rowOf? (Except.ok.inj found)

theorem mem_of_insertIfAbsent {fresh : Subscription}
    (inserted : (store.insertIfAbsent fresh).1 = .ok row) :
    row ∈ (store.insertIfAbsent fresh).2.subscriptions ∧ row.tenant = fresh.tenant := by
  unfold insertIfAbsent guarded at inserted ⊢
  split at inserted
  · cases inserted
  · next working =>
      rw [if_neg working]
      cases present : store.rowOf? fresh.tenant with
      | some other =>
          rw [present] at inserted
          obtain rfl : other = row := Except.ok.inj inserted
          exact mem_of_rowOf? present
      | none =>
          rw [present] at inserted
          obtain rfl : fresh = row := Except.ok.inj inserted
          have appended := putRow_of_absent (absent_of_rowOf? present)
          refine ⟨?_, rfl⟩
          change fresh ∈ putRow fresh store.subscriptions
          rw [appended]
          exact List.mem_append_right _ (List.mem_singleton_self fresh)

theorem mem_of_update {method : Method} {tenant : Uuid} {change : Subscription → Subscription}
    (keeps : ∀ old, (change old).tenant = old.tenant)
    (written : (store.guarded method (store.update tenant change)).1 = .ok row) :
    row ∈ (store.guarded method (store.update tenant change)).2.subscriptions ∧ row.tenant = tenant := by
  unfold guarded at written ⊢
  split at written
  · cases written
  · next working =>
      rw [if_neg working]
      unfold update at written ⊢
      cases present : store.rowOf? tenant with
      | none =>
          rw [present] at written
          cases written
      | some old =>
          rw [present] at written
          obtain rfl : change old = row := Except.ok.inj written
          obtain ⟨_, own⟩ := mem_of_rowOf? present
          have put := rowOf?_put store (change old)
          exact ⟨(mem_of_rowOf? put).1, (keeps old).trans own⟩

/-- Every row is related to what is left of it when one row has been written over. -/
theorem related_putRow {Related : Subscription → Subscription → Prop} (refl : ∀ row, Related row row)
    (oneEach : OneEach rows) (member : old ∈ rows) (same : row.tenant = old.tenant)
    (related : Related old row) : ∀ other ∈ rows, ∃ later ∈ putRow row rows, Related other later := by
  intro other present
  rw [putRow_of_mem oneEach member same.symm]
  refine ⟨replacedBy row other, List.mem_map_of_mem present, ?_⟩
  unfold replacedBy
  split
  · next equal =>
      obtain rfl : old = other := oneEach.eq member present (same.symm.trans equal.symm)
      exact related
  · exact refl other

theorem mem_map_replacedBy (found : other ∈ rows.map (replacedBy row)) :
    other = row ∨ other ∈ rows ∧ other.tenant ≠ row.tenant := by
  obtain ⟨before, present, rfl⟩ := List.mem_map.mp found
  unfold replacedBy
  split
  · exact .inl rfl
  · next different => exact .inr ⟨present, different⟩

end

end Store

end UsageBilling
