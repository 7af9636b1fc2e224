import Mathlib.Algebra.BigOperators.Group.Finset.Basic
import UsageBilling.Proofs.Tracker.Buffers
/-!
What a tracker says about the amounts it has not stored. A key may stand in both buffers; it is counted
once, with the sum of its two amounts.
-/
namespace UsageBilling

namespace Buffer

theorem mem_keys_iff_has {buffer : Buffer} {key : UsageKey} :
    key ∈ buffer.keys ↔ buffer.has key = true := by
  induction buffer with
  | nil => simp [keys, has]
  | cons entry buffer ih =>
      obtain ⟨other, amount⟩ := entry
      by_cases same : key = other
      · simp [keys, has, same]
      · have different : (key == other) = false := beq_eq_false_iff_ne.mpr same
        simp only [keys, has] at ih
        simp [keys, has, List.lookup_cons, different, same, ih]

theorem get_pos_iff {buffer : Buffer} (wellFormed : buffer.WellFormed) (key : UsageKey) :
    0 < buffer.get key ↔ key ∈ buffer.keys := by
  constructor
  · intro positive
    by_contra absent
    rw [get_of_not_mem absent] at positive
    exact lt_irrefl 0 positive
  · intro present
    obtain ⟨entry, member, rfl⟩ := List.mem_map.mp present
    rw [get_of_mem wellFormed.nodup member]
    exact (wellFormed.amounts entry member).1

theorem sum_get {buffer : Buffer} (wellFormed : buffer.WellFormed) {keys : Finset UsageKey}
    (covers : ∀ key ∈ buffer.keys, key ∈ keys) :
    ∑ key ∈ keys, buffer.get key = buffer.amounts.sum := by
  have own : ∑ key ∈ buffer.keys.toFinset, buffer.get key = ∑ key ∈ keys, buffer.get key := by
    apply Finset.sum_subset
    · intro key member
      exact covers key (List.mem_toFinset.mp member)
    · intro key _ absent
      exact get_of_not_mem fun member => absent (List.mem_toFinset.mpr member)
  have amounts : buffer.keys.map buffer.get = buffer.amounts := by
    unfold Buffer.keys Buffer.amounts
    rw [List.map_map]
    apply List.map_congr_left
    intro entry member
    exact get_of_mem wellFormed.nodup member
  rw [← own, List.sum_toFinset _ wellFormed.nodup, amounts]

end Buffer

namespace Tracker

def unflushed (tracker : Tracker) : Finset UsageKey :=
  (tracker.live.keys ++ tracker.inflight.keys).toFinset

/-- No key stands twice in either buffer, and only amounts stand there. -/
structure WellFormed (tracker : Tracker) : Prop where
  live : tracker.live.WellFormed
  inflight : tracker.inflight.WellFormed

variable {tracker : Tracker}

theorem WellFormed.nonneg (wellFormed : tracker.WellFormed) :
    ∀ amount ∈ tracker.live.amounts ++ tracker.inflight.amounts, 0 ≤ amount := by
  intro amount member
  rcases List.mem_append.mp member with live | inflight
  · obtain ⟨entry, found, rfl⟩ := List.mem_map.mp live
    exact le_trans (by decide) (wellFormed.live.amounts entry found).1
  · obtain ⟨entry, found, rfl⟩ := List.mem_map.mp inflight
    exact le_trans (by decide) (wellFormed.inflight.amounts entry found).1

theorem mem_unflushed {key : UsageKey} :
    key ∈ tracker.unflushed ↔ key ∈ tracker.live.keys ∨ key ∈ tracker.inflight.keys := by
  simp [unflushed]

theorem pending_eq_min (wellFormed : tracker.WellFormed) (key : UsageKey) :
    tracker.pending key =
      min (tracker.live.get key + tracker.inflight.get key) Quantity.greatest :=
  Quantity.add_of_nonneg (Buffer.get_bounds wellFormed.live key).1
    (Buffer.get_bounds wellFormed.inflight key).1

theorem mem_unflushed_iff_pending_pos (wellFormed : tracker.WellFormed) (key : UsageKey) :
    key ∈ tracker.unflushed ↔ 0 < tracker.pending key := by
  have live := Buffer.get_bounds wellFormed.live key
  have inflight := Buffer.get_bounds wellFormed.inflight key
  have positive : (0 : Int) < Quantity.greatest := by decide
  rw [mem_unflushed, ← Buffer.get_pos_iff wellFormed.live, ← Buffer.get_pos_iff wellFormed.inflight,
    pending_eq_min wellFormed]
  omega

/-- A key that stands in both buffers is counted once. -/
theorem unflushedKeys_eq_card (wellFormed : tracker.WellFormed) :
    tracker.unflushedKeys = tracker.unflushed.card := by
  let others := tracker.inflight.filter fun entry => !tracker.live.has entry.1
  have mem_others : ∀ key, key ∈ Buffer.keys others ↔
      key ∈ tracker.inflight.keys ∧ key ∉ tracker.live.keys := by
    intro key
    have live : key ∈ tracker.live.keys ↔ tracker.live.has key = true := Buffer.mem_keys_iff_has
    rw [live]
    constructor
    · intro member
      obtain ⟨entry, found, rfl⟩ := List.mem_map.mp member
      obtain ⟨present, apart⟩ := List.mem_filter.mp found
      exact ⟨List.mem_map_of_mem present, by simpa using apart⟩
    · rintro ⟨member, apart⟩
      obtain ⟨entry, found, rfl⟩ := List.mem_map.mp member
      exact List.mem_map_of_mem (List.mem_filter.mpr ⟨found, by simpa using apart⟩)
  have nodup : (tracker.live.keys ++ Buffer.keys others).Nodup := by
    apply List.Nodup.append wellFormed.live.nodup
    · exact List.Nodup.sublist (List.Sublist.map _ List.filter_sublist) wellFormed.inflight.nodup
    · intro key live other
      exact ((mem_others key).mp other).2 live
  have same : tracker.unflushed = (tracker.live.keys ++ Buffer.keys others).toFinset := by
    ext key
    rw [mem_unflushed, List.mem_toFinset, List.mem_append, mem_others]
    tauto
  rw [same, List.toFinset_card_of_nodup nodup]
  simp [unflushedKeys, Buffer.keys, others]

theorem unflushedQuantity_eq_min (wellFormed : tracker.WellFormed) :
    tracker.unflushedQuantity = min
      (∑ key ∈ tracker.unflushed, (tracker.live.get key + tracker.inflight.get key))
      Quantity.greatest := by
  have live : ∑ key ∈ tracker.unflushed, tracker.live.get key = tracker.live.amounts.sum :=
    Buffer.sum_get wellFormed.live fun key member => mem_unflushed.mpr (.inl member)
  have inflight : ∑ key ∈ tracker.unflushed, tracker.inflight.get key =
      tracker.inflight.amounts.sum :=
    Buffer.sum_get wellFormed.inflight fun key member => mem_unflushed.mpr (.inr member)
  unfold unflushedQuantity
  rw [Quantity.sum_of_nonneg _ wellFormed.nonneg, List.sum_append, Finset.sum_add_distrib, live,
    inflight]

/-- What is not stored yet, in numbers: `entries` keys have an amount pending, and all of these amounts
add up to `quantity`, cut off at the greatest amount. -/
def Leftover (tracker : Tracker) (entries : Nat) (quantity : Int) : Prop :=
  ∃ keys : Finset UsageKey, (∀ key, key ∈ keys ↔ 0 < tracker.pending key) ∧ entries = keys.card ∧
    quantity =
      min (∑ key ∈ keys, (tracker.live.get key + tracker.inflight.get key)) Quantity.greatest

theorem leftover_unflushed (wellFormed : tracker.WellFormed) :
    tracker.Leftover tracker.unflushedKeys tracker.unflushedQuantity :=
  ⟨tracker.unflushed, mem_unflushed_iff_pending_pos wellFormed, unflushedKeys_eq_card wellFormed,
    unflushedQuantity_eq_min wellFormed⟩

end Tracker

end UsageBilling
