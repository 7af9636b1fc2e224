import Mathlib.Data.List.Nodup
import UsageBilling.Proofs.Reporting.Books
import UsageBilling.Proofs.Store.Grouping
/-!
What has been read and billed, against the rows that are not reported. A group once read is a front
part of the outstanding rows of its key until it is marked, and shares none with them afterwards. So two
billed groups share a row only where the later one is the earlier one with rows added at its end.
-/
namespace UsageBilling.Reporting

def outstanding (usage : List UsageRow) (key : GroupKey) : List Uuid :=
  ((usage.filter fun row => !row.reported).filter fun row => row.groupKey = key).map (·.id)

/-- Both groups have the same key, and the second one holds more rows, all written later. -/
def Grown (group grown : UsageGroup) : Prop :=
  group.key = grown.key ∧ group.rowIds <+: grown.rowIds ∧ group.rowIds ≠ grown.rowIds

def Describes (usage : List UsageRow) (group : UsageGroup) : Prop :=
  ∃ own, own.Sublist (usage.map UsageRow.content) ∧ own ≠ [] ∧ own.map (·.1) = group.rowIds ∧
    (∀ content ∈ own, content.2.1 = group.key) ∧
    group.quantity = Quantity.sum (own.map fun content => content.2.2)

section Outstanding

variable {usage : List UsageRow} {key : GroupKey} {group other : UsageGroup} {id : Uuid}

theorem outstanding_append (usage more : List UsageRow) (key : GroupKey) :
    outstanding (usage ++ more) key = outstanding usage key ++ outstanding more key := by
  simp [outstanding, List.filter_append]

theorem outstanding_markRows (store : Store) (ids : List Uuid) (usageId : Option String)
    (now : Instant) (key : GroupKey) : outstanding (store.markRows ids usageId now).usage key =
      (outstanding store.usage key).filter fun id => id ∉ ids := by
  have left := store.waiting_markRows ids usageId now
  unfold Store.waiting at left
  rw [outstanding, left, List.filter_comm, outstanding, List.filter_map]
  rfl

theorem row_of_mem_outstanding (member : id ∈ outstanding usage key) :
    ∃ row ∈ usage, row.id = id ∧ row.groupKey = key := by
  obtain ⟨row, found, same⟩ := List.mem_map.mp member
  obtain ⟨kept, own⟩ := List.mem_filter.mp found
  exact ⟨row, List.mem_of_mem_filter kept, same, by simpa using own⟩

theorem row_of_describes (describes : Describes usage group) (member : id ∈ group.rowIds) :
    ∃ row ∈ usage, row.id = id ∧ row.groupKey = group.key := by
  obtain ⟨own, part, _, ids, keys, _⟩ := describes
  obtain ⟨content, found, same⟩ := List.mem_map.mp (ids ▸ member)
  obtain ⟨row, present, rfl⟩ := List.mem_map.mp (part.subset found)
  exact ⟨row, present, same, keys _ found⟩

theorem Describes.ne_nil (describes : Describes usage group) : group.rowIds ≠ [] := by
  obtain ⟨own, _, present, ids, _, _⟩ := describes
  rw [← ids]
  simpa using present

theorem key_unique (distinct : (usage.map (·.id)).Nodup) {row second : UsageRow}
    (member : row ∈ usage) (present : second ∈ usage) (same : row.id = second.id) :
    row.groupKey = second.groupKey := by
  rw [List.inj_on_of_nodup_map distinct member present same]

theorem Describes.key_eq (distinct : (usage.map (·.id)).Nodup) (describes : Describes usage group)
    (second : Describes usage other) (member : id ∈ group.rowIds) (shared : id ∈ other.rowIds) :
    group.key = other.key := by
  obtain ⟨row, present, same, key⟩ := row_of_describes describes member
  obtain ⟨row', present', same', key'⟩ := row_of_describes second shared
  rw [← key, ← key', key_unique distinct present present' (same.trans same'.symm)]

theorem Describes.of_contents {after : List UsageRow} (describes : Describes usage group)
    (kept : usage.map UsageRow.content <+: after.map UsageRow.content) : Describes after group := by
  obtain ⟨own, part, rest⟩ := describes
  exact ⟨own, part.trans kept.sublist, rest⟩

theorem describes_of_mem_ofRows
    (member : group ∈ UsageGroup.ofRows (usage.filter fun row => !row.reported)) :
    Describes usage group ∧ group.rowIds = outstanding usage group.key := by
  obtain ⟨row, present, rfl⟩ := UsageGroup.mem_ofRows.mp member
  refine ⟨⟨((usage.filter fun row => !row.reported).filter fun other =>
    other.groupKey = row.groupKey).map UsageRow.content, ?_, ?_, ?_, ?_, ?_⟩, rfl⟩
  · exact (List.filter_sublist.trans List.filter_sublist).map UsageRow.content
  · intro empty
    have none := List.map_eq_nil_iff.mp empty
    simpa using List.filter_eq_nil_iff.mp none row present
  · rw [List.map_map]
    rfl
  · intro content found
    obtain ⟨other, own, rfl⟩ := List.mem_map.mp found
    have same := (List.mem_filter.mp own).2
    exact of_decide_eq_true same
  · rw [List.map_map]
    rfl

end Outstanding

/-- The group has not been marked, or else all of it has. -/
def Standing (usage : List UsageRow) (group : UsageGroup) : Prop :=
  group.rowIds <+: outstanding usage group.key ∨
    group.rowIds.Disjoint (outstanding usage group.key)

/-- Two front parts of the same rows share the first of them. -/
theorem not_disjoint_of_fronts {first second rows : List Uuid} (left : first <+: rows)
    (right : second <+: rows) (firstFilled : first ≠ []) (secondFilled : second ≠ []) :
    ¬ first.Disjoint second := by
  intro separate
  rcases List.prefix_or_prefix_of_prefix left right with part | part
  · obtain ⟨id, own⟩ := List.exists_mem_of_ne_nil _ firstFilled
    exact separate own (part.subset own)
  · obtain ⟨id, own⟩ := List.exists_mem_of_ne_nil _ secondFilled
    exact separate (part.subset own) own

theorem standing_markRows {store : Store} {group other : UsageGroup}
    (distinct : (store.usage.map (·.id)).Nodup) (describes : Describes store.usage group)
    (otherDescribes : Describes store.usage other) (standing : Standing store.usage group)
    (otherStanding : Standing store.usage other)
    (related : other.key = group.key →
      other.rowIds <+: group.rowIds ∨ other.rowIds.Disjoint group.rowIds)
    (usageId : Option String) (now : Instant) :
    Standing (store.markRows group.rowIds usageId now).usage other := by
  unfold Standing
  rw [outstanding_markRows]
  have untouched : (∀ id ∈ outstanding store.usage other.key, id ∉ group.rowIds) →
      ((outstanding store.usage other.key).filter fun id => id ∉ group.rowIds) =
        outstanding store.usage other.key := by
    intro none
    exact List.filter_eq_self.mpr fun id found => by simpa using none id found
  rcases otherStanding with front | gone
  · by_cases same : other.key = group.key
    · rcases related same with part | separate
      · right
        intro id own found
        have kept := (List.mem_filter.mp found).2
        simp [part.subset own] at kept
      -- Both groups are a front of what waits under the key, so they cannot be apart.
      · rcases standing with groupFront | groupGone
        · rw [← same] at groupFront
          exact absurd separate
            (not_disjoint_of_fronts front groupFront otherDescribes.ne_nil describes.ne_nil)
        · left
          rw [untouched fun id found own => groupGone own (same ▸ found)]
          exact front
    · left
      rw [untouched ?_]
      · exact front
      · intro id found own
        obtain ⟨row, there, rowId, rowKey⟩ := row_of_mem_outstanding found
        obtain ⟨row', there', rowId', rowKey'⟩ := row_of_describes describes own
        apply same
        rw [← rowKey, ← rowKey', key_unique distinct there there' (rowId.trans rowId'.symm)]
  · right
    intro id own found
    exact gone own (List.mem_of_mem_filter found)

/-- What the groups that were billed and those that wait have in common with the rows. -/
structure Sound (usage : List UsageRow) (waiting billed : List UsageGroup) : Prop where
  described : ∀ group, group ∈ waiting ∨ group ∈ billed → Describes usage group
  standing : ∀ group, group ∈ waiting ∨ group ∈ billed → Standing usage group
  apart : (waiting.map UsageGroup.key).Nodup
  earlier : ∀ group ∈ billed, ∀ later ∈ waiting, group.key = later.key →
    group.rowIds <+: later.rowIds ∨ group.rowIds.Disjoint later.rowIds
  grown : billed.Pairwise fun group later =>
    (∃ id, id ∈ group.rowIds ∧ id ∈ later.rowIds) → Grown group later

namespace Sound

variable {usage : List UsageRow} {waiting billed : List UsageGroup} {group : UsageGroup}

theorem start (usage : List UsageRow) : Sound usage [] [] :=
  ⟨by simp, by simp, List.nodup_nil, by simp, List.Pairwise.nil⟩

theorem fewer (sound : Sound usage waiting billed) {rest : List UsageGroup} (part : rest.Sublist waiting) :
    Sound usage rest billed := by
  obtain ⟨described, standing, apart, earlier, grown⟩ := sound
  have known : ∀ group, group ∈ rest ∨ group ∈ billed → group ∈ waiting ∨ group ∈ billed :=
    fun group present => present.imp_left fun member => part.subset member
  exact ⟨fun group present => described group (known group present),
    fun group present => standing group (known group present), (part.map UsageGroup.key).nodup apart,
    fun group member later found => earlier group member later (part.subset found), grown⟩

theorem append (sound : Sound usage waiting billed) (more : List UsageRow)
    (distinct : ((usage ++ more).map (·.id)).Nodup) : Sound (usage ++ more) waiting billed := by
  obtain ⟨described, standing, apart, earlier, grown⟩ := sound
  refine ⟨?_, ?_, apart, earlier, grown⟩
  · intro group present
    apply (described group present).of_contents
    rw [List.map_append]
    exact List.prefix_append _ _
  · intro group present
    unfold Standing
    rw [outstanding_append]
    rcases standing group present with front | gone
    · exact .inl (front.trans (List.prefix_append _ _))
    · right
      intro id member found
      rcases List.mem_append.mp found with old | new
      · exact gone member old
      · obtain ⟨row, there, same, _⟩ := row_of_describes (described group present) member
        obtain ⟨added, fresh, same', _⟩ := row_of_mem_outstanding new
        rw [List.map_append] at distinct
        exact (List.nodup_append.mp distinct).2.2 row.id (List.mem_map_of_mem there) added.id
          (List.mem_map_of_mem fresh) (same.trans same'.symm)

theorem read (sound : Sound usage waiting billed) :
    Sound usage (UsageGroup.ofRows (usage.filter fun row => !row.reported)) billed := by
  obtain ⟨described, standing, _, _, grown⟩ := sound
  refine ⟨?_, ?_, (UsageGroup.sorted_ofRows _).nodup_keys, ?_, grown⟩
  · rintro group (member | member)
    · exact (describes_of_mem_ofRows member).1
    · exact described group (.inr member)
  · rintro group (member | member)
    · refine .inl ⟨[], ?_⟩
      rw [List.append_nil, (describes_of_mem_ofRows member).2]
    · exact standing group (.inr member)
  · intro group member later found same
    rw [(describes_of_mem_ofRows found).2, ← same]
    exact standing group (.inr member)

theorem bill (sound : Sound usage waiting billed) (distinct : (usage.map (·.id)).Nodup)
    (member : group ∈ waiting) (fresh : ∀ other ∈ billed, other.rowIds ≠ group.rowIds) :
    Sound usage waiting (billed ++ [group]) := by
  obtain ⟨described, standing, apart, earlier, grown⟩ := sound
  have known : ∀ other, other ∈ waiting ∨ other ∈ billed ++ [group] →
      other ∈ waiting ∨ other ∈ billed := by
    intro other present
    rcases present with waits | present
    · exact .inl waits
    · rcases List.mem_append.mp present with old | new
      · exact .inr old
      · exact .inl (List.mem_singleton.mp new ▸ member)
  refine ⟨fun other present => described other (known other present),
    fun other present => standing other (known other present), apart, ?_, ?_⟩
  · intro other present later found same
    rcases List.mem_append.mp present with old | new
    · exact earlier other old later found same
    · rw [List.mem_singleton.mp new] at same ⊢
      rw [List.inj_on_of_nodup_map apart member found same]
      exact .inl (List.prefix_refl _)
  · refine List.pairwise_append.mpr ⟨grown, List.pairwise_singleton _ _, ?_⟩
    intro other old last single
    rw [List.mem_singleton.mp single]
    rintro ⟨id, left, right⟩
    have same := (described other (.inr old)).key_eq distinct (described group (.inl member)) left right
    -- The two share a row, so they are not apart, and the key of the later one is new.
    rcases earlier other old group member same with front | separate
    · exact ⟨same, front, fresh other old⟩
    · exact absurd right (separate left)

theorem mark {store : Store} (sound : Sound store.usage waiting billed)
    (distinct : (store.usage.map (·.id)).Nodup) (member : group ∈ waiting) (usageId : Option String)
    (now : Instant) : Sound (store.markRows group.rowIds usageId now).usage waiting billed := by
  obtain ⟨described, standing, apart, earlier, grown⟩ := sound
  have related : ∀ other, other ∈ waiting ∨ other ∈ billed → other.key = group.key →
      other.rowIds <+: group.rowIds ∨ other.rowIds.Disjoint group.rowIds := by
    rintro other (waits | old) same
    · rw [List.inj_on_of_nodup_map apart waits member same]
      exact .inl (List.prefix_refl _)
    · exact earlier other old group member same
  refine ⟨?_, ?_, apart, earlier, grown⟩
  · intro other present
    have kept : (store.markRows group.rowIds usageId now).usage.map UsageRow.content =
        store.usage.map UsageRow.content := store.contents_markRows group.rowIds usageId now
    exact (described other present).of_contents (kept ▸ List.prefix_rfl)
  · intro other present
    exact standing_markRows distinct (described group (.inl member)) (described other present)
      (standing group (.inl member)) (standing other present) (related other present) usageId now

end Sound

end UsageBilling.Reporting
