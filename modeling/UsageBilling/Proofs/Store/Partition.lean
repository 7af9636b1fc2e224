import Mathlib.Data.List.Nodup
import UsageBilling.Proofs.Amounts
import UsageBilling.Proofs.Store.Grouping
/-!
Grouping the unreported rows is a partition: every unreported row stands in exactly one group, once, and
two rows share a group exactly if they agree in tenant, metric and period. Rows that are marked leave
their groups and no others, so marking whole groups takes these groups away.
-/
namespace UsageBilling

namespace UsageGroup

variable {rows : List UsageRow} {row : UsageRow} {group : UsageGroup} {groups others : List UsageGroup}

theorem Sorted.nodup (sorted : Sorted groups) : groups.Nodup := sorted.nodup_keys.of_map key

/-- Groups in order are determined by which ones there are. -/
theorem Sorted.ext (left : Sorted groups) (right : Sorted others)
    (same : ∀ group, group ∈ groups ↔ group ∈ others) : groups = others := by
  have perm : groups.Perm others := (List.perm_ext_iff_of_nodup left.nodup right.nodup).mpr same
  refine perm.eq_of_pairwise (fun first second _ _ before after => ?_) left right
  exact absurd (GroupKey.before_trans before after) (GroupKey.before_irrefl _)

theorem gather_filter {key : GroupKey} {keep : GroupKey → Bool} (kept : keep key = true)
    (rows : List UsageRow) :
    gather key (rows.filter fun row => keep row.groupKey) = gather key rows := by
  have own : (rows.filter fun row => keep row.groupKey).filter (fun row => row.groupKey = key) =
      rows.filter fun row => row.groupKey = key := by
    rw [List.filter_filter]
    apply List.filter_congr
    intro row _
    by_cases same : row.groupKey = key
    · simp [same, kept]
    · simp [same]
  unfold gather
  rw [own]

theorem ofRows_filter (keep : GroupKey → Bool) (rows : List UsageRow) :
    ofRows (rows.filter fun row => keep row.groupKey) =
      (ofRows rows).filter fun group => keep group.key := by
  apply (sorted_ofRows _).ext ((sorted_ofRows rows).filter _)
  intro group
  simp only [List.mem_filter, mem_ofRows]
  constructor
  · rintro ⟨row, ⟨member, kept⟩, rfl⟩
    exact ⟨⟨row, member, gather_filter kept rows⟩, kept⟩
  · rintro ⟨⟨row, member, rfl⟩, kept⟩
    exact ⟨row, ⟨member, kept⟩, (gather_filter kept rows).symm⟩

end UsageGroup

namespace Store

variable {store : Store} {row : UsageRow} {group : UsageGroup}

theorem rowIds_sublist (member : group ∈ store.unreportedGroups) :
    group.rowIds.Sublist (store.usage.map (·.id)) := by
  rw [rowIds_of_mem member]
  exact (List.filter_sublist.trans List.filter_sublist).map UsageRow.id

theorem nodup_rowIds (distinct : (store.usage.map (·.id)).Nodup) :
    (store.unreportedGroups.flatMap (·.rowIds)).Nodup := by
  rw [List.nodup_flatMap]
  constructor
  · exact fun group member => (rowIds_sublist member).nodup distinct
  · refine (UsageGroup.sorted_ofRows _).imp_of_mem fun {first second} left right before => ?_
    intro id own shared
    obtain ⟨row, listed, firstKey, rfl⟩ := (mem_rowIds left).mp own
    have secondKey := ((id_mem_rowIds distinct right (mem_waiting.mp listed).1).mp shared).2
    exact before.ne (firstKey.symm.trans secondKey)

theorem mem_flatMap_rowIds (distinct : (store.usage.map (·.id)).Nodup) (present : row ∈ store.usage) :
    row.id ∈ store.unreportedGroups.flatMap (·.rowIds) ↔ row.reported = false := by
  rw [List.mem_flatMap]
  constructor
  · rintro ⟨group, member, listed⟩
    exact ((id_mem_rowIds distinct member present).mp listed).1
  · intro unreported
    obtain ⟨group, member, _, listed⟩ := exists_group present unreported
    exact ⟨group, member, listed⟩

/-- The groups part the unreported rows. -/
structure Partitions (rows : List UsageRow) (groups : List UsageGroup) : Prop where
  /-- By tenant, metric, start and end of the period, and none of them twice. -/
  ascending : groups.Pairwise fun earlier later => earlier.key.Before later.key
  /-- An unreported row stands in one group, once, and a reported row in none. -/
  once : ∀ row ∈ rows, (groups.flatMap (·.rowIds)).count row.id = if row.reported then 0 else 1
  /-- All that stands in a group is a row with the tenant, the metric and the period of the group. -/
  own : ∀ group ∈ groups, ∀ id ∈ group.rowIds, ∃ row ∈ rows, row.id = id ∧
    row.tenant = group.tenant ∧ row.metric = group.metric ∧ row.period = group.period
  shared : ∀ row ∈ rows, ∀ other ∈ rows, row.reported = false → other.reported = false →
    ((∃ group ∈ groups, row.id ∈ group.rowIds ∧ other.id ∈ group.rowIds) ↔
      row.tenant = other.tenant ∧ row.metric = other.metric ∧
        row.period.start = other.period.start ∧ row.period.finish = other.period.finish)
  filled : ∀ group ∈ groups, group.rowIds ≠ []
  /-- The rows of a group are listed in the order in which they are stored. -/
  inOrder : ∀ group ∈ groups, group.rowIds.Sublist (rows.map (·.id))
  amount : ∀ group ∈ groups, group.quantity = min Quantity.greatest
    ((rows.filter fun row => group.rowIds.contains row.id).map (·.quantity)).sum

theorem partitions_unreportedGroups (distinct : (store.usage.map (·.id)).Nodup)
    (nonneg : ∀ row ∈ store.usage, 0 ≤ row.quantity) :
    Partitions store.usage store.unreportedGroups where
  ascending := UsageGroup.sorted_ofRows _
  once row present := by
    rw [(nodup_rowIds distinct).count]
    simp only [mem_flatMap_rowIds distinct present]
    cases row.reported <;> rfl
  own group member id listed := by
    obtain ⟨row, waits, own, same⟩ := (mem_rowIds member).mp listed
    obtain ⟨tenant, metric, period⟩ := GroupKey.mk.inj own
    exact ⟨row, (mem_waiting.mp waits).1, same, tenant, metric, period⟩
  shared row present other stored unreported waits := by
    have sameKey : row.groupKey = other.groupKey ↔ row.tenant = other.tenant ∧
        row.metric = other.metric ∧ row.period.start = other.period.start ∧
          row.period.finish = other.period.finish := by
      rw [← Period.mk.injEq]
      exact GroupKey.mk.injEq .. ▸ Iff.rfl
    rw [← sameKey]
    constructor
    · rintro ⟨group, member, first, second⟩
      have firstKey := ((id_mem_rowIds distinct member present).mp first).2
      have secondKey := ((id_mem_rowIds distinct member stored).mp second).2
      exact firstKey.trans secondKey.symm
    · intro same
      obtain ⟨group, member, own, listed⟩ := exists_group present unreported
      exact ⟨group, member, listed,
        (id_mem_rowIds distinct member stored).mpr ⟨waits, same.symm.trans own⟩⟩
  filled group member := by
    obtain ⟨row, waits, rfl⟩ := UsageGroup.mem_ofRows.mp member
    exact List.ne_nil_of_mem ((mem_rowIds member).mpr ⟨row, waits, rfl, rfl⟩)
  inOrder _ member := rowIds_sublist member
  amount group member := by
    have rows : (store.usage.filter fun row => group.rowIds.contains row.id) =
        store.usage.filter fun row => !row.reported && row.groupKey = group.key := by
      apply List.filter_congr
      intro row present
      rw [Bool.eq_iff_iff]
      simp [id_mem_rowIds distinct member present]
    rw [quantity_of_mem member, rows, min_comm]
    apply Quantity.sum_of_nonneg
    intro amount listed
    obtain ⟨row, found, rfl⟩ := List.mem_map.mp listed
    exact nonneg row (List.mem_of_mem_filter found)

structure Marking where
  ids : List Uuid
  usageId : Option String
  now : Instant

def markAll (store : Store) (markings : List Marking) : Store :=
  markings.foldl
    (fun store marking => (store.markReported marking.ids marking.usageId marking.now).2) store

theorem outages_markAll (store : Store) (markings : List Marking) :
    (store.markAll markings).outages = store.outages := by
  induction markings generalizing store with
  | nil => rfl
  | cons marking markings ih =>
      have kept := (keepsUsage_markReported store marking.ids marking.usageId marking.now).outages
      exact (ih _).trans kept

theorem waiting_markAll (writes : store.isDown .markReported = false) (markings : List Marking) :
    (store.markAll markings).waiting =
      store.waiting.filter fun row => ∀ marking ∈ markings, row.id ∉ marking.ids := by
  induction markings generalizing store with
  | nil => simp [markAll]
  | cons marking markings ih =>
      have first : store.markAll (marking :: markings) =
          (store.markRows marking.ids marking.usageId marking.now).markAll markings := by
        unfold markAll markReported
        rw [List.foldl_cons, guarded_ok writes]
      have still : isDown (store.markRows marking.ids marking.usageId marking.now) .markReported = false :=
        writes
      rw [first, ih still, waiting_markRows, List.filter_filter]
      apply List.filter_congr
      intro row _
      simp [Bool.and_comm]

theorem unreportedGroups_of_marked {after : Store} {chosen : List UsageGroup}
    (distinct : (store.usage.map (·.id)).Nodup)
    (known : ∀ group ∈ chosen, group ∈ store.unreportedGroups)
    (left : after.waiting = store.waiting.filter fun row => ∀ group ∈ chosen, row.id ∉ group.rowIds) :
    after.unreportedGroups = store.unreportedGroups.filter fun group => group ∉ chosen := by
  have kept : after.waiting =
      store.waiting.filter fun row => ∀ group ∈ chosen, group.key ≠ row.groupKey := by
    rw [left]
    apply List.filter_congr
    intro row listed
    obtain ⟨present, unreported⟩ := mem_waiting.mp listed
    rw [decide_eq_decide]
    refine forall₂_congr fun group member => not_congr ?_
    rw [id_mem_rowIds distinct (known group member) present]
    exact ⟨fun own => own.2.symm, fun own => ⟨unreported, own.symm⟩⟩
  rw [unreportedGroups_eq, kept,
    UsageGroup.ofRows_filter fun key => decide (∀ group ∈ chosen, group.key ≠ key),
    ← unreportedGroups_eq]
  apply List.filter_congr
  intro group member
  rw [decide_eq_decide]
  constructor
  · exact fun others listed => others group listed rfl
  · intro absent other listed same
    have keys := (UsageGroup.sorted_ofRows store.waiting).nodup_keys
    obtain rfl := List.inj_on_of_nodup_map keys (known other listed) member same
    exact absent listed

/-- What is read are groups that part the unreported rows. Once the ids of some of these groups have been
marked, by one call or by several, the others are read as they were. -/
theorem unreported_partitioned (distinct : (store.usage.map (·.id)).Nodup)
    (nonneg : ∀ row ∈ store.usage, 0 ≤ row.quantity)
    (reads : store.isDown .unreportedUsage = false) (writes : store.isDown .markReported = false) :
    ∃ groups, store.unreportedUsage = .ok groups ∧ Partitions store.usage groups ∧
      ∀ chosen : List UsageGroup, (∀ group ∈ chosen, group ∈ groups) → ∀ markings : List Marking,
        (∀ id, (∃ marking ∈ markings, id ∈ marking.ids) ↔ ∃ group ∈ chosen, id ∈ group.rowIds) →
        (store.markAll markings).unreportedUsage = .ok (groups.filter fun group => group ∉ chosen) := by
  refine ⟨store.unreportedGroups, unreportedUsage_ok reads, ?_, ?_⟩
  · exact partitions_unreportedGroups distinct nonneg
  intro chosen known markings same
  have stillReads : (store.markAll markings).isDown .unreportedUsage = false := by
    unfold isDown at reads ⊢
    rw [outages_markAll, reads]
  rw [unreportedUsage_ok stillReads, unreportedGroups_of_marked distinct known]
  rw [waiting_markAll writes]
  apply List.filter_congr
  intro row _
  rw [decide_eq_decide]
  have marked := not_congr (same row.id)
  push Not at marked
  exact marked

def crossed : Store where
  usage :=
    let may : Period := ⟨⟨100, 0⟩, ⟨200, 0⟩⟩
    let june : Period := ⟨⟨200, 0⟩, ⟨300, 0⟩⟩
    [.fresh ⟨3⟩ ⟨⟨7⟩, .testRuns, Quantity.greatest, may⟩ ⟨0, 0⟩,
     .fresh ⟨1⟩ ⟨⟨8⟩, .aiTokens, 5, may⟩ ⟨0, 0⟩,
     (UsageRow.fresh ⟨4⟩ ⟨⟨7⟩, .testRuns, 6, june⟩ ⟨0, 0⟩).markReported none ⟨0, 0⟩,
     .fresh ⟨2⟩ ⟨⟨7⟩, .testRuns, 1, may⟩ ⟨0, 0⟩]

/-- The amounts of the first tenant are cut off, and marking its rows one by one leaves the second. -/
theorem unreported_partitioned_crossed :
    let may : Period := ⟨⟨100, 0⟩, ⟨200, 0⟩⟩
    let first : UsageGroup := ⟨⟨7⟩, "test_runs", may, Quantity.greatest, [⟨3⟩, ⟨2⟩]⟩
    let second : UsageGroup := ⟨⟨8⟩, "ai_tokens", may, 5, [⟨1⟩]⟩
    crossed.unreportedUsage = .ok [first, second] ∧ Partitions crossed.usage [first, second] ∧
      (crossed.markAll [⟨[⟨2⟩], none, ⟨9, 0⟩⟩, ⟨[⟨3⟩, ⟨2⟩], some "mbur_1", ⟨10, 0⟩⟩]).unreportedUsage =
        .ok [second] := by
  intro may first second
  have read : crossed.unreportedUsage = .ok [first, second] := by decide
  have distinct : (crossed.usage.map (·.id)).Nodup := by decide
  obtain ⟨groups, same, partitions, after⟩ := unreported_partitioned distinct (by decide) rfl rfl
  obtain rfl : [first, second] = groups := Except.ok.inj (read.symm.trans same)
  refine ⟨read, partitions, (after [first] (by simp) _ fun id => ?_).trans (by decide)⟩
  simp [first, or_comm]

end Store

end UsageBilling
