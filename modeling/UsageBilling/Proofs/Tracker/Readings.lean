import UsageBilling.Proofs.Tracker.Closing
import UsageBilling.Proofs.Tracker.Hidden
/-!
What can be read off a tracker. All of it is decided by what is pending under each key. As long as no
batch is written, what is pending is what was pending before and what has been accepted since, whatever
flushes begin, fail or are dropped on the way.
-/
namespace UsageBilling

namespace Tracker

variable {tracker left right : Tracker}

structure Agrees (left right : Tracker) : Prop where
  pending : ∀ key, left.pending key = right.pending key
  pendingOf : ∀ tenant, left.pendingOf tenant = right.pendingOf tenant
  unflushedKeys : left.unflushedKeys = right.unflushedKeys

theorem has_iff_pending_pos (wellFormed : tracker.WellFormed) (key : UsageKey) :
    (tracker.live.has key || tracker.inflight.has key) = true ↔ 0 < tracker.pending key := by
  rw [← mem_unflushed_iff_pending_pos wellFormed, mem_unflushed, Buffer.mem_keys_iff_has,
    Buffer.mem_keys_iff_has, Bool.or_eq_true]

theorem agrees_of_pending (leftForm : left.WellFormed) (rightForm : right.WellFormed)
    (same : ∀ key, left.pending key = right.pending key) : left.Agrees right where
  pending := same
  pendingOf := by
    intro tenant
    unfold pendingOf
    apply List.filterMap_congr
    intro metric member
    have keys := (has_iff_pending_pos leftForm ⟨tenant, metric⟩).trans
      (same ⟨tenant, metric⟩ ▸ (has_iff_pending_pos rightForm ⟨tenant, metric⟩).symm)
    simp only [keys, same]
  unflushedKeys := by
    rw [unflushedKeys_eq_card leftForm, unflushedKeys_eq_card rightForm]
    congr 1
    ext key
    rw [mem_unflushed_iff_pending_pos leftForm, mem_unflushed_iff_pending_pos rightForm, same]

end Tracker

namespace Pipeline

variable {pipeline : Pipeline}

def batches (pipeline : Pipeline) : Nat := pipeline.service.store.batches

theorem batches_after (pipeline : Pipeline) (move : Move) :
    pipeline.batches ≤ (pipeline.after move).batches ∧
      ((pipeline.after move).batches = pipeline.batches →
        (pipeline.after move).service.store.contents = pipeline.service.store.contents) := by
  by_cases calm : move.Calm
  · have steady := pipeline.steady_after calm
    exact ⟨steady.batches, steady.unwritten⟩
  · cases move with
    | clock now => exact ⟨le_rfl, fun _ => rfl⟩
    | switch method down => exact ⟨le_rfl, fun _ => rfl⟩
    | _ => exact absurd trivial calm

theorem batches_afterAll (pipeline : Pipeline) (moves : List Move) :
    pipeline.batches ≤ (pipeline.afterAll moves).batches ∧
      ((pipeline.afterAll moves).batches = pipeline.batches →
        (pipeline.afterAll moves).service.store.contents = pipeline.service.store.contents) := by
  induction moves generalizing pipeline with
  | nil => exact ⟨le_rfl, fun _ => rfl⟩
  | cons move moves ih =>
      obtain ⟨first, unwritten⟩ := pipeline.batches_after move
      obtain ⟨rest, later⟩ := ih (pipeline.after move)
      refine ⟨first.trans rest, fun same => ?_⟩
      rw [afterAll_cons] at same ⊢
      rw [later (by omega), unwritten (by omega)]

theorem pending_of_contents (buffered : pipeline.Buffered) {moves : List Move}
    (contents : (pipeline.afterAll moves).service.store.contents = pipeline.service.store.contents)
    (key : UsageKey) : (pipeline.afterAll moves).service.tracker.pending key =
      min (pipeline.service.tracker.pending key + pipeline.accepted key moves) Quantity.greatest := by
  obtain ⟨ended, conserves⟩ := afterAll_buffered buffered moves
  have carries := conserves.carries key
  rw [Store.stored_of_contents contents] at carries
  obtain ⟨upper, lower⟩ := carries
  rw [Tracker.pending_eq_min ended.service.tracker, Tracker.pending_eq_min buffered.service.tracker]
  unfold Service.unstored at upper lower
  omega

/-- What is pending at the end of moves that write no batch. -/
theorem pending_afterAll (buffered : pipeline.Buffered) {moves : List Move}
    (unwritten : (pipeline.afterAll moves).batches = pipeline.batches) (key : UsageKey) :
    (pipeline.afterAll moves).service.tracker.pending key =
      min (pipeline.service.tracker.pending key + pipeline.accepted key moves) Quantity.greatest :=
  pending_of_contents buffered ((pipeline.batches_afterAll moves).2 unwritten) key

end Pipeline

end UsageBilling
