import Mathlib.Algebra.Order.BigOperators.Group.Finset
import UsageBilling.Proofs.Tracker.Readings
import UsageBilling.Proofs.Tracker.Shutdown
/-!
What a tracker tells of the amounts it has not stored, in four ways: by key, by tenant, as a number of
keys, and as one sum. A key may stand in both buffers at once. The four agree wherever a run leads, also
while a flush writes, after one that failed or was dropped, and after a closing.
-/
namespace UsageBilling

open Quantity

theorem Quantity.min_sum_min {κ : Type} (keys : Finset κ) {amount : κ → Int}
    (nonneg : ∀ key, 0 ≤ amount key) :
    min (∑ key ∈ keys, min (amount key) greatest) greatest = min (∑ key ∈ keys, amount key) greatest := by
  classical
  induction keys using Finset.induction_on with
  | empty => rfl
  | insert key keys absent ih =>
      have first := nonneg key
      have bound := greatest_nonneg
      have rest : 0 ≤ ∑ other ∈ keys, amount other := Finset.sum_nonneg fun other _ => nonneg other
      have cut : 0 ≤ ∑ other ∈ keys, min (amount other) greatest :=
        Finset.sum_nonneg fun other _ => le_min (nonneg other) bound
      rw [Finset.sum_insert absent, Finset.sum_insert absent]
      omega

theorem Buffer.mem_iff_get {buffer : Buffer} (wellFormed : buffer.WellFormed) (key : UsageKey)
    (amount : Int) : (key, amount) ∈ buffer ↔ 0 < buffer.get key ∧ amount = buffer.get key := by
  constructor
  · intro member
    have positive := (get_pos_iff wellFormed key).mpr (List.mem_map_of_mem member)
    exact ⟨positive, (get_of_mem wellFormed.nodup member).symm⟩
  · rintro ⟨positive, rfl⟩
    obtain ⟨entry, member, rfl⟩ := List.mem_map.mp ((get_pos_iff wellFormed key).mp positive)
    rw [get_of_mem wellFormed.nodup member]
    exact member

namespace Tracker

variable {tracker : Tracker} {tenant : Uuid}

theorem mem_pendingOf (wellFormed : tracker.WellFormed) (metric : Metric) (amount : Int) :
    (metric, amount) ∈ tracker.pendingOf tenant ↔
      0 < tracker.pending ⟨tenant, metric⟩ ∧ amount = tracker.pending ⟨tenant, metric⟩ := by
  rw [← has_iff_pending_pos wellFormed]
  unfold pendingOf
  rw [List.mem_filterMap]
  constructor
  · rintro ⟨other, _, told⟩
    dsimp only at told
    split at told
    · next present =>
        obtain ⟨rfl, rfl⟩ := Prod.mk.inj (Option.some.inj told)
        exact ⟨present, rfl⟩
    · cases told
  · rintro ⟨present, rfl⟩
    exact ⟨metric, Metric.mem_all metric, if_pos present⟩

theorem nodup_pendingOf (tracker : Tracker) (tenant : Uuid) :
    ((tracker.pendingOf tenant).map Prod.fst).Nodup := by
  have all : Metric.all.Nodup := by decide
  have listed : (tracker.pendingOf tenant).map Prod.fst = Metric.all.filter fun metric =>
      tracker.live.has ⟨tenant, metric⟩ || tracker.inflight.has ⟨tenant, metric⟩ := by
    unfold pendingOf
    rw [List.map_filterMap, ← List.filterMap_eq_filter]
    apply List.filterMap_congr
    intro metric member
    dsimp only
    split
    · next present => simp [Option.guard, present]
    · next absent => simp [Option.guard, absent]
  rw [listed]
  exact all.filter _

/-- All entries of both buffers, in the order in which they are visited. -/
def Visits (tracker : Tracker) (visited : List (UsageKey × Int)) : Prop :=
  visited.Perm (tracker.live ++ tracker.inflight)

def gathered (tenant : Uuid) (visited : List (UsageKey × Int)) : Buffer :=
  Buffer.merge [] (visited.filter fun entry => entry.1.tenant = tenant)

theorem Visits.amounts {visited : List (UsageKey × Int)} (visits : tracker.Visits visited)
    (wellFormed : tracker.WellFormed) : ∀ entry ∈ visited, IsAmount entry.2 := by
  intro entry member
  rcases List.mem_append.mp (visits.mem_iff.mp member) with live | inflight
  · exact wellFormed.live.amounts entry live
  · exact wellFormed.inflight.amounts entry inflight

theorem get_gathered {visited : List (UsageKey × Int)} (visits : tracker.Visits visited)
    (wellFormed : tracker.WellFormed) (metric : Metric) :
    (gathered tenant visited).get ⟨tenant, metric⟩ = tracker.pending ⟨tenant, metric⟩ := by
  have own : (visited.filter fun entry => entry.1.tenant = tenant).filter
      (fun entry => entry.1 = ⟨tenant, metric⟩) =
      visited.filter fun entry => entry.1 = ⟨tenant, metric⟩ := by
    rw [List.filter_filter]
    apply List.filter_congr
    intro entry _
    by_cases same : entry.1 = ⟨tenant, metric⟩ <;> simp [same]
  have total : ((visited.filter fun entry => entry.1 = ⟨tenant, metric⟩).map Prod.snd).sum =
      tracker.live.get ⟨tenant, metric⟩ + tracker.inflight.get ⟨tenant, metric⟩ := by
    rw [((visits.filter _).map _).sum_eq, List.filter_append, List.map_append, List.sum_append,
      Buffer.sum_filter_key wellFormed.live.nodup, Buffer.sum_filter_key wellFormed.inflight.nodup]
  have amounts := visits.amounts wellFormed
  rw [gathered, Buffer.get_merge_entries Buffer.wellFormed_nil
    fun entry member => amounts entry (List.mem_of_mem_filter member), own, total,
    Buffer.get_nil, Int.zero_add, pending_eq_min wellFormed]

theorem mem_gathered {visited : List (UsageKey × Int)} (visits : tracker.Visits visited)
    (wellFormed : tracker.WellFormed) (metric : Metric) (amount : Int) :
    (⟨tenant, metric⟩, amount) ∈ gathered tenant visited ↔
      (metric, amount) ∈ tracker.pendingOf tenant := by
  have form : (gathered tenant visited).WellFormed :=
    Buffer.wellFormed_merge_entries Buffer.wellFormed_nil fun entry member =>
      visits.amounts wellFormed entry (List.mem_of_mem_filter member)
  rw [Buffer.mem_iff_get form, get_gathered visits wellFormed, mem_pendingOf wellFormed]

def Totals (tracker : Tracker) (entries : Nat) (quantity : Int) : Prop :=
  ∃ keys : Finset UsageKey, (∀ key, key ∈ keys ↔ 0 < tracker.pending key) ∧ entries = keys.card ∧
    quantity = min (∑ key ∈ keys, tracker.pending key) greatest

theorem Leftover.totals {entries : Nat} {quantity : Int} (leftover : tracker.Leftover entries quantity)
    (wellFormed : tracker.WellFormed) : tracker.Totals entries quantity := by
  obtain ⟨keys, positive, counted, summed⟩ := leftover
  refine ⟨keys, positive, counted, ?_⟩
  have nonneg : ∀ key, 0 ≤ tracker.live.get key + tracker.inflight.get key := by
    intro key
    have live := Buffer.get_bounds wellFormed.live key
    have inflight := Buffer.get_bounds wellFormed.inflight key
    omega
  simp only [summed, pending_eq_min wellFormed, min_sum_min keys nonneg]

/-- The four ways to tell what is not stored agree. -/
structure Coherent (tracker : Tracker) : Prop where
  /-- A tenant is told of a metric where an amount is pending, and of that amount. -/
  tenants : ∀ tenant metric amount, (metric, amount) ∈ tracker.pendingOf tenant ↔
    0 < tracker.pending ⟨tenant, metric⟩ ∧ amount = tracker.pending ⟨tenant, metric⟩
  once : ∀ tenant, ((tracker.pendingOf tenant).map Prod.fst).Nodup
  /-- The same comes of adding up the entries of both buffers in whatever order. -/
  visits : ∀ tenant visited, tracker.Visits visited → ∀ metric amount,
    (⟨tenant, metric⟩, amount) ∈ gathered tenant visited ↔ (metric, amount) ∈ tracker.pendingOf tenant
  totals : tracker.Totals tracker.unflushedKeys tracker.unflushedQuantity

theorem WellFormed.coherent (wellFormed : tracker.WellFormed) : tracker.Coherent where
  tenants _ metric amount := mem_pendingOf wellFormed metric amount
  once tenant := nodup_pendingOf tracker tenant
  visits _ _ visits metric amount := mem_gathered visits wellFormed metric amount
  totals := (leftover_unflushed wellFormed).totals wellFormed

end Tracker

namespace Pipeline

/-- Wherever a run leads, the four ways to tell what is not stored agree, and so does what a closing
answers that runs out of time there. -/
theorem views_agree (start : Pipeline) (opened : start.Opened) (moves : List Move) :
    let reached := start.afterAll moves
    reached.service.tracker.Coherent ∧
    ∀ event limitSecs entries quantity,
      (reached.perform event).1 = some (.closed (.error (.timedOut limitSecs entries quantity))) →
        reached.service.tracker.Totals entries quantity := by
  intro reached
  have wellFormed : reached.service.tracker.WellFormed :=
    (afterAll_buffered opened.buffered moves).1.service.tracker
  refine ⟨wellFormed.coherent, fun event limitSecs entries quantity told => ?_⟩
  obtain ⟨_, _, _, rfl, rfl⟩ := numbers_of_timedOut told
  exact wellFormed.coherent.totals

def standsTwice : List Move :=
  [.event (.track trackedKey 5), .event (.flush 1), .event .work, .event (.track trackedKey 3),
    .event .close]

theorem views_agree_standsTwice :
    let reached := launched.afterAll standsTwice
    launched.Opened ∧ reached.service.tracker.live.has trackedKey ∧
      reached.service.tracker.inflight.has trackedKey ∧
      (reached.perform (.expire 30)).1 = some (.closed (.error (.timedOut 30 1 8))) ∧
      reached.service.tracker.Coherent ∧ reached.service.tracker.Totals 1 8 := by
  intro reached
  have told : (reached.perform (.expire 30)).1 = some (.closed (.error (.timedOut 30 1 8))) := rfl
  obtain ⟨coherent, totals⟩ := views_agree launched launched_opened standsTwice
  exact ⟨launched_opened, rfl, rfl, told, coherent, totals _ _ _ _ told⟩

end Pipeline

end UsageBilling
