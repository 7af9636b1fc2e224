import UsageBilling.Proofs.Amounts
import UsageBilling.Tracker.Basic
/-!
Buffers as maps: what `add` and `merge` do to the amount of each key, and that a key never stands
twice.
-/
namespace UsageBilling

namespace Buffer

open Quantity

def keys (buffer : Buffer) : List UsageKey := buffer.map Prod.fst

/-- No key stands twice, and under each one there is an amount. -/
structure WellFormed (buffer : Buffer) : Prop where
  nodup : buffer.keys.Nodup
  amounts : ∀ entry ∈ buffer, IsAmount entry.2

theorem wellFormed_nil : WellFormed [] := ⟨List.nodup_nil, by simp⟩

theorem WellFormed.tail {entry : UsageKey × Int} {buffer : Buffer}
    (wellFormed : WellFormed (entry :: buffer)) : WellFormed buffer :=
  ⟨(List.nodup_cons.mp wellFormed.nodup).2,
    fun other member => wellFormed.amounts other (List.mem_cons_of_mem entry member)⟩

theorem get_nil (key : UsageKey) : get [] key = 0 := rfl

theorem get_cons (entry : UsageKey × Int) (buffer : Buffer) (key : UsageKey) :
    get (entry :: buffer) key = if entry.1 = key then entry.2 else get buffer key := by
  obtain ⟨other, amount⟩ := entry
  unfold get
  by_cases same : other = key
  · subst same
    simp
  · have different : (key == other) = false := beq_eq_false_iff_ne.mpr (Ne.symm same)
    simp [List.lookup_cons, different, same]

theorem get_of_not_mem {buffer : Buffer} {key : UsageKey} (absent : key ∉ buffer.keys) :
    get buffer key = 0 := by
  induction buffer with
  | nil => rfl
  | cons entry buffer ih =>
      simp only [keys, List.map_cons, List.mem_cons, not_or] at absent
      rw [get_cons, if_neg (Ne.symm absent.1)]
      exact ih absent.2

theorem get_of_mem {buffer : Buffer} (nodup : buffer.keys.Nodup) {entry : UsageKey × Int}
    (member : entry ∈ buffer) : get buffer entry.1 = entry.2 := by
  induction buffer with
  | nil => cases member
  | cons first buffer ih =>
      have parts := List.nodup_cons.mp nodup
      rw [get_cons]
      rcases List.mem_cons.mp member with rfl | later
      · rw [if_pos rfl]
      · have different : first.1 ≠ entry.1 := by
          intro same
          exact parts.1 (List.mem_map.mpr ⟨entry, later, same.symm⟩)
        rw [if_neg different, ih parts.2 later]

theorem get_bounds {buffer : Buffer} (wellFormed : WellFormed buffer) (key : UsageKey) :
    0 ≤ get buffer key ∧ get buffer key ≤ greatest := by
  by_cases present : key ∈ buffer.keys
  · obtain ⟨entry, member, rfl⟩ := List.mem_map.mp present
    obtain ⟨positive, bound⟩ := wellFormed.amounts entry member
    rw [get_of_mem wellFormed.nodup member]
    omega
  · rw [get_of_not_mem present]
    exact ⟨le_rfl, greatest_nonneg⟩

theorem sum_filter_key {buffer : Buffer} (nodup : buffer.keys.Nodup) (key : UsageKey) :
    ((buffer.filter fun entry => entry.1 = key).map Prod.snd).sum = get buffer key := by
  induction buffer with
  | nil => rfl
  | cons entry buffer ih =>
      have parts := List.nodup_cons.mp nodup
      rw [get_cons]
      by_cases same : entry.1 = key
      · subst same
        have alone : get buffer entry.1 = 0 := get_of_not_mem parts.1
        simp [ih parts.2, alone]
      · simp [same, ih parts.2]

theorem mem_keys_add {key other : UsageKey} {amount : Int} {buffer : Buffer} :
    other ∈ keys (add key amount buffer) ↔ other = key ∨ other ∈ keys buffer := by
  induction buffer with
  | nil => simp [add, keys]
  | cons entry buffer ih =>
      obtain ⟨present, held⟩ := entry
      simp only [keys] at ih
      by_cases same : present = key
      · subst same
        simp [add, keys]
      · simp only [add, same, if_false, keys, List.map_cons, List.mem_cons, ih]
        tauto

theorem get_add (key asked : UsageKey) (amount : Int) (buffer : Buffer) :
    get (add key amount buffer) asked =
      if key = asked then Quantity.add (get buffer key) amount else get buffer asked := by
  induction buffer with
  | nil => simp [add, get_cons, get_nil]
  | cons entry buffer ih =>
      obtain ⟨present, held⟩ := entry
      by_cases same : present = key
      · subst same
        simp only [add, if_true, get_cons]
        by_cases found : present = asked <;> simp [found]
      · simp only [add, same, if_false, get_cons, ih]
        by_cases found : present = asked
        · subst found
          simp [Ne.symm same]
        · simp [found]

theorem wellFormed_add {buffer : Buffer} (wellFormed : WellFormed buffer) (key : UsageKey)
    {amount : Int} (isAmount : IsAmount amount) : WellFormed (add key amount buffer) := by
  induction buffer with
  | nil =>
      refine ⟨by simp [add, keys], ?_⟩
      intro entry member
      rw [List.mem_singleton.mp member]
      exact add_isAmount le_rfl isAmount
  | cons entry buffer ih =>
      obtain ⟨present, held⟩ := entry
      have heldAmount := wellFormed.amounts (present, held) List.mem_cons_self
      have later := ih wellFormed.tail
      by_cases same : present = key
      · subst same
        simp only [add, if_true]
        refine ⟨wellFormed.nodup, ?_⟩
        intro other member
        rcases List.mem_cons.mp member with rfl | member
        · exact add_isAmount (by have := heldAmount.1; omega) isAmount
        · exact wellFormed.tail.amounts other member
      · simp only [add, same, if_false]
        constructor
        · have fresh := (List.nodup_cons.mp wellFormed.nodup).1
          refine List.nodup_cons.mpr ⟨?_, later.nodup⟩
          intro member
          rcases mem_keys_add.mp member with found | found
          · exact same found
          · exact fresh found
        · intro other member
          rcases List.mem_cons.mp member with rfl | member
          · exact heldAmount
          · exact later.amounts other member

theorem merge_nil (buffer : Buffer) : merge buffer [] = buffer := rfl

theorem merge_cons (buffer other : Buffer) (entry : UsageKey × Int) :
    merge buffer (entry :: other) = merge (add entry.1 entry.2 buffer) other := rfl

theorem wellFormed_merge_entries {buffer entries : Buffer} (wellFormed : WellFormed buffer)
    (amounts : ∀ entry ∈ entries, IsAmount entry.2) : WellFormed (merge buffer entries) := by
  induction entries generalizing buffer with
  | nil => exact wellFormed
  | cons entry entries ih =>
      have first := amounts entry List.mem_cons_self
      exact ih (wellFormed_add wellFormed entry.1 first) fun other member =>
        amounts other (List.mem_cons_of_mem entry member)

theorem get_merge_entries {buffer entries : Buffer} (wellFormed : WellFormed buffer)
    (amounts : ∀ entry ∈ entries, IsAmount entry.2) (key : UsageKey) :
    get (merge buffer entries) key = min
      (get buffer key + ((entries.filter fun entry => entry.1 = key).map Prod.snd).sum) greatest := by
  induction entries generalizing buffer with
  | nil =>
      have bounds := get_bounds wellFormed key
      simp [merge_nil, bounds.2]
  | cons entry entries ih =>
      have first := amounts entry List.mem_cons_self
      have others : ∀ other ∈ entries, IsAmount other.2 := fun other member =>
        amounts other (List.mem_cons_of_mem entry member)
      have rest : 0 ≤ ((entries.filter fun entry => entry.1 = key).map Prod.snd).sum := by
        apply List.sum_nonneg
        intro amount member
        obtain ⟨other, found, rfl⟩ := List.mem_map.mp member
        exact le_trans (by decide) (others other (List.mem_of_mem_filter found)).1
      rw [merge_cons, ih (wellFormed_add wellFormed entry.1 first) others, get_add]
      by_cases same : entry.1 = key
      · subst same
        have bounds := get_bounds wellFormed entry.1
        rw [if_pos rfl, add_of_nonneg bounds.1 (by have := first.1; omega),
          List.filter_cons_of_pos (by simp), List.map_cons, List.sum_cons]
        omega
      · rw [if_neg same, List.filter_cons_of_neg (by simpa using same)]

theorem wellFormed_merge {buffer other : Buffer} (left : WellFormed buffer)
    (right : WellFormed other) : WellFormed (merge buffer other) :=
  wellFormed_merge_entries left right.amounts

theorem get_merge {buffer other : Buffer} (left : WellFormed buffer) (right : WellFormed other)
    (key : UsageKey) :
    get (merge buffer other) key = Quantity.add (get buffer key) (get other key) := by
  rw [get_merge_entries left right.amounts, sum_filter_key right.nodup,
    add_of_nonneg (get_bounds left key).1 (get_bounds right key).1]

end Buffer

end UsageBilling
