import Mathlib.Data.List.Induction
import Mathlib.Data.List.Nodup
import Mathlib.Data.String.Basic
import UsageBilling.Proofs.Store.Contents
/-!
The groups that rows fall into. There is one group for each key that some row has, it gathers exactly
the rows with that key in their order, and the groups stand in the order of their keys. The groups of a
store are those of its unreported rows.
-/
namespace UsageBilling

namespace GroupKey

theorem before_irrefl (key : GroupKey) : ¬ key.Before key := by
  rintro (tenant | ⟨_, metric | ⟨_, start | ⟨_, finish⟩⟩⟩)
  · exact BitVec.lt_irrefl _ tenant
  · exact String.lt_irrefl _ metric
  · exact Instant.lt_irrefl _ start
  · exact Instant.lt_irrefl _ finish

theorem before_trans {first second third : GroupKey} (left : first.Before second)
    (right : second.Before third) : first.Before third := by
  rcases left with left | ⟨sameTenant, left⟩
  · rcases right with right | ⟨same, _⟩
    · exact .inl (BitVec.lt_trans left right)
    · exact .inl (same ▸ left)
  rcases right with right | ⟨sameTenant', right⟩
  · exact .inl (sameTenant ▸ right)
  refine .inr ⟨sameTenant.trans sameTenant', ?_⟩
  rcases left with left | ⟨sameMetric, left⟩
  · rcases right with right | ⟨same, _⟩
    · exact .inl (String.lt_trans left right)
    · exact .inl (same ▸ left)
  rcases right with right | ⟨sameMetric', right⟩
  · exact .inl (sameMetric ▸ right)
  refine .inr ⟨sameMetric.trans sameMetric', ?_⟩
  rcases left with left | ⟨sameStart, left⟩
  · rcases right with right | ⟨same, _⟩
    · exact .inl (Instant.lt_trans left right)
    · exact .inl (same ▸ left)
  rcases right with right | ⟨sameStart', right⟩
  · exact .inl (sameStart ▸ right)
  exact .inr ⟨sameStart.trans sameStart', Instant.lt_trans left right⟩

theorem before_trichotomy (first second : GroupKey) :
    first.Before second ∨ first = second ∨ second.Before first := by
  obtain ⟨⟨firstBits⟩, firstMetric, ⟨firstStart, firstFinish⟩⟩ := first
  obtain ⟨⟨secondBits⟩, secondMetric, ⟨secondStart, secondFinish⟩⟩ := second
  have bits : firstBits < secondBits ∨ firstBits = secondBits ∨ secondBits < firstBits := by
    bv_omega
  rcases bits with earlier | rfl | later
  · exact .inl (.inl earlier)
  · rcases lt_trichotomy firstMetric secondMetric with earlier | rfl | later
    · exact .inl (.inr ⟨rfl, .inl earlier⟩)
    · rcases Instant.lt_trichotomy firstStart secondStart with earlier | rfl | later
      · exact .inl (.inr ⟨rfl, .inr ⟨rfl, .inl earlier⟩⟩)
      · rcases Instant.lt_trichotomy firstFinish secondFinish with earlier | rfl | later
        · exact .inl (.inr ⟨rfl, .inr ⟨rfl, .inr ⟨rfl, earlier⟩⟩⟩)
        · exact .inr (.inl rfl)
        · exact .inr (.inr (.inr ⟨rfl, .inr ⟨rfl, .inr ⟨rfl, later⟩⟩⟩))
      · exact .inr (.inr (.inr ⟨rfl, .inr ⟨rfl, .inl later⟩⟩))
    · exact .inr (.inr (.inr ⟨rfl, .inl later⟩))
  · exact .inr (.inr (.inl later))

theorem Before.ne {first second : GroupKey} (before : first.Before second) : first ≠ second := by
  rintro rfl
  exact before_irrefl _ before

end GroupKey

namespace UsageGroup

variable {rows : List UsageRow} {row : UsageRow} {group : UsageGroup} {groups : List UsageGroup}

def gather (key : GroupKey) (rows : List UsageRow) : UsageGroup :=
  let own := rows.filter fun row => row.groupKey = key
  ⟨key.tenant, key.metric, key.period, Quantity.sum (own.map (·.quantity)), own.map (·.id)⟩

/-- In the order of their keys, and so no two of one key. -/
def Sorted (groups : List UsageGroup) : Prop :=
  groups.Pairwise fun earlier later => earlier.key.Before later.key

@[simp] theorem key_push (group : UsageGroup) (row : UsageRow) : (group.push row).key = group.key := rfl

@[simp] theorem key_gather (key : GroupKey) (rows : List UsageRow) : (gather key rows).key = key := rfl

theorem gather_append_of_eq (rows : List UsageRow) (row : UsageRow) :
    gather row.groupKey (rows ++ [row]) = (gather row.groupKey rows).push row := by
  simp [gather, push, List.filter_append, Quantity.sum, List.foldl_append]

theorem gather_append_of_ne {key : GroupKey} (other : row.groupKey ≠ key) :
    gather key (rows ++ [row]) = gather key rows := by
  simp [gather, List.filter_append, other]

theorem gather_of_absent (absent : ∀ other ∈ rows, other.groupKey ≠ row.groupKey) :
    gather row.groupKey rows = ⟨row.tenant, row.metric, row.period, 0, []⟩ := by
  have none : (rows.filter fun other => other.groupKey = row.groupKey) = [] := by
    rw [List.filter_eq_nil_iff]
    intro other member
    simpa using absent other member
  simp only [gather, none]
  rfl

theorem mem_insertRow (sorted : Sorted groups) : group ∈ insertRow row groups ↔
    group ∈ groups ∧ group.key ≠ row.groupKey ∨
    group = ((groups.find? fun other => other.key = row.groupKey).getD
      ⟨row.tenant, row.metric, row.period, 0, []⟩).push row := by
  induction groups with
  | nil => simp [insertRow, ofRow]
  | cons first rest ih =>
      obtain ⟨least, sortedRest⟩ := List.pairwise_cons.mp sorted
      unfold insertRow
      -- The row joins the first group, makes a group before it, or goes on to the rest.
      by_cases same : first.key = row.groupKey
      · have others : ∀ other ∈ rest, other.key ≠ row.groupKey := by
          intro other member
          exact same ▸ (least other member).ne.symm
        rw [if_pos same, List.find?_cons_of_pos (by simpa using same), Option.getD_some,
          List.mem_cons, List.mem_cons]
        constructor
        · rintro (rfl | member)
          · exact .inr rfl
          · exact .inl ⟨.inr member, others group member⟩
        · rintro (⟨rfl | member, different⟩ | rfl)
          · exact absurd same different
          · exact .inr member
          · exact .inl rfl
      · rw [if_neg same, List.find?_cons_of_neg (by simpa using same)]
        by_cases before : row.groupKey.Before first.key
        · have others : ∀ other ∈ first :: rest, other.key ≠ row.groupKey := by
            intro other member
            rcases List.mem_cons.mp member with rfl | member
            · exact same
            · exact (GroupKey.before_trans before (least other member)).ne.symm
          have absent : (rest.find? fun other => other.key = row.groupKey) = none := by
            rw [List.find?_eq_none]
            intro other member
            simpa using others other (List.mem_cons_of_mem first member)
          rw [if_pos before, absent, Option.getD_none, List.mem_cons]
          constructor
          · rintro (rfl | member)
            · exact .inr rfl
            · exact .inl ⟨member, others group member⟩
          · rintro (⟨member, _⟩ | rfl)
            · exact .inr member
            · exact .inl rfl
        · rw [if_neg before, List.mem_cons, ih sortedRest, List.mem_cons]
          constructor
          · rintro (rfl | ⟨member, different⟩ | pushed)
            · exact .inl ⟨.inl rfl, same⟩
            · exact .inl ⟨.inr member, different⟩
            · exact .inr pushed
          · rintro (⟨rfl | member, different⟩ | pushed)
            · exact .inl rfl
            · exact .inr (.inl ⟨member, different⟩)
            · exact .inr (.inr pushed)

theorem key_of_mem_insertRow (sorted : Sorted groups) (member : group ∈ insertRow row groups) :
    group ∈ groups ∧ group.key ≠ row.groupKey ∨ group.key = row.groupKey := by
  rcases (mem_insertRow sorted).mp member with kept | rfl
  · exact .inl kept
  · right
    rw [key_push]
    cases found : groups.find? fun other => other.key = row.groupKey with
    | none => rfl
    | some present => simpa using List.find?_some found

theorem sorted_insertRow (row : UsageRow) (sorted : Sorted groups) : Sorted (insertRow row groups) := by
  induction groups with
  | nil => exact List.pairwise_singleton _ _
  | cons first rest ih =>
      obtain ⟨least, sortedRest⟩ := List.pairwise_cons.mp sorted
      unfold insertRow
      by_cases same : first.key = row.groupKey
      · rw [if_pos same]
        exact List.pairwise_cons.mpr ⟨least, sortedRest⟩
      · rw [if_neg same]
        by_cases before : row.groupKey.Before first.key
        · rw [if_pos before]
          refine List.pairwise_cons.mpr ⟨?_, sorted⟩
          intro other member
          rcases List.mem_cons.mp member with rfl | member
          · exact before
          · exact GroupKey.before_trans before (least other member)
        · rw [if_neg before]
          refine List.pairwise_cons.mpr ⟨?_, ih sortedRest⟩
          intro other member
          rcases key_of_mem_insertRow sortedRest member with ⟨kept, _⟩ | own
          · exact least other kept
          · rw [own]
            rcases GroupKey.before_trichotomy first.key row.groupKey with earlier | equal | later
            · exact earlier
            · exact absurd equal same
            · exact absurd later before

/-- One row after the other: the groups stay in order, and each one gathers its rows. -/
theorem ofRows_spec (rows : List UsageRow) : Sorted (ofRows rows) ∧
    ∀ group, group ∈ ofRows rows ↔ ∃ row ∈ rows, group = gather row.groupKey rows := by
  induction rows using List.reverseRecOn with
  | nil => exact ⟨List.Pairwise.nil, by simp [ofRows]⟩
  | append_singleton rows row ih =>
      obtain ⟨sorted, members⟩ := ih
      have inserted : ofRows (rows ++ [row]) = insertRow row (ofRows rows) := by
        simp [ofRows, List.foldl_append]
      have own : ((ofRows rows).find? fun other => other.key = row.groupKey).getD
          ⟨row.tenant, row.metric, row.period, 0, []⟩ = gather row.groupKey rows := by
        cases found : (ofRows rows).find? fun other => other.key = row.groupKey with
        | some present =>
            obtain ⟨other, _, rfl⟩ := (members present).mp (List.mem_of_find?_eq_some found)
            have same : other.groupKey = row.groupKey := of_decide_eq_true (List.find?_some found :)
            rw [Option.getD_some, same]
        | none =>
            rw [Option.getD_none, gather_of_absent]
            intro other member same
            have listed := (members _).mpr ⟨other, member, rfl⟩
            have missing := List.find?_eq_none.mp found _ listed
            simp [same] at missing
      rw [inserted]
      refine ⟨sorted_insertRow row sorted, fun group => ?_⟩
      rw [mem_insertRow sorted, own, ← gather_append_of_eq, members]
      constructor
      · rintro (⟨⟨other, member, rfl⟩, different⟩ | rfl)
        · exact ⟨other, by simp [member], (gather_append_of_ne (Ne.symm different)).symm⟩
        · exact ⟨row, by simp, rfl⟩
      · rintro ⟨other, member, rfl⟩
        by_cases same : other.groupKey = row.groupKey
        · exact .inr (by rw [same])
        · left
          have earlier : other ∈ rows := by
            rcases List.mem_append.mp member with earlier | last
            · exact earlier
            · exact absurd (congrArg UsageRow.groupKey (List.mem_singleton.mp last)) same
          exact ⟨⟨other, earlier, gather_append_of_ne (Ne.symm same)⟩, same⟩

theorem sorted_ofRows (rows : List UsageRow) : Sorted (ofRows rows) := (ofRows_spec rows).1

theorem mem_ofRows : group ∈ ofRows rows ↔ ∃ row ∈ rows, group = gather row.groupKey rows :=
  (ofRows_spec rows).2 group

theorem eq_gather (member : group ∈ ofRows rows) : group = gather group.key rows := by
  obtain ⟨row, _, rfl⟩ := mem_ofRows.mp member
  rw [key_gather]

theorem Sorted.nodup_keys (sorted : Sorted groups) : (groups.map key).Nodup := by
  rw [List.Nodup, List.pairwise_map]
  exact sorted.imp fun before => before.ne

end UsageGroup

namespace Store

variable {store : Store} {row : UsageRow} {group : UsageGroup} {id : Uuid}

theorem unreportedUsage_ok (working : store.isDown .unreportedUsage = false) :
    store.unreportedUsage = .ok store.unreportedGroups := by
  rw [unreportedUsage, guarded_ok working]

theorem mem_waiting : row ∈ store.waiting ↔ row ∈ store.usage ∧ row.reported = false := by
  simp [waiting]

theorem unreportedGroups_eq (store : Store) : store.unreportedGroups = UsageGroup.ofRows store.waiting :=
  rfl

theorem rowIds_of_mem (member : group ∈ store.unreportedGroups) : group.rowIds =
    (store.waiting.filter fun row => row.groupKey = group.key).map (·.id) :=
  congrArg UsageGroup.rowIds (UsageGroup.eq_gather member)

theorem quantity_of_mem (member : group ∈ store.unreportedGroups) : group.quantity =
    Quantity.sum ((store.usage.filter fun row =>
      !row.reported && row.groupKey = group.key).map (·.quantity)) := by
  have own : (store.waiting.filter fun row => row.groupKey = group.key) =
      store.usage.filter fun row => !row.reported && row.groupKey = group.key := by
    rw [waiting, List.filter_filter]
    exact List.filter_congr fun row _ => Bool.and_comm _ _
  rw [← own]
  exact congrArg UsageGroup.quantity (UsageGroup.eq_gather member)

theorem mem_rowIds (member : group ∈ store.unreportedGroups) : id ∈ group.rowIds ↔
    ∃ row ∈ store.waiting, row.groupKey = group.key ∧ row.id = id := by
  rw [rowIds_of_mem member]
  simp [and_assoc]

/-- A row stands in the group of its key, as long as it is not reported, and in no other. -/
theorem id_mem_rowIds (distinct : (store.usage.map (·.id)).Nodup)
    (member : group ∈ store.unreportedGroups) (present : row ∈ store.usage) :
    row.id ∈ group.rowIds ↔ row.reported = false ∧ row.groupKey = group.key := by
  rw [mem_rowIds member]
  constructor
  · rintro ⟨other, listed, own, same⟩
    obtain ⟨stored, unreported⟩ := mem_waiting.mp listed
    obtain rfl : other = row := List.inj_on_of_nodup_map distinct stored present same
    exact ⟨unreported, own⟩
  · rintro ⟨unreported, own⟩
    exact ⟨row, mem_waiting.mpr ⟨present, unreported⟩, own, rfl⟩

theorem exists_group (present : row ∈ store.usage) (unreported : row.reported = false) :
    ∃ group ∈ store.unreportedGroups, row.groupKey = group.key ∧ row.id ∈ group.rowIds := by
  have waits := mem_waiting.mpr ⟨present, unreported⟩
  have member : UsageGroup.gather row.groupKey store.waiting ∈ store.unreportedGroups :=
    UsageGroup.mem_ofRows.mpr ⟨row, waits, rfl⟩
  exact ⟨_, member, rfl, (mem_rowIds member).mpr ⟨row, waits, rfl, rfl⟩⟩

end Store

end UsageBilling
