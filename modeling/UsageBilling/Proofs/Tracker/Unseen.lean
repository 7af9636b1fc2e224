import UsageBilling.Proofs.Tracker.Landing
/-!
Flushes that fail or are dropped. They leave the store as it is, and what can be read off the tracker is
what could be read had they never begun: it depends only on what was pending and on what has been
accepted since. What an abandoned flush leaves in its slot is written by the next one, together with what
has come in.
-/
namespace UsageBilling

open Quantity

def Move.isSeen (move : Move) : Bool := !move.flushes

namespace Pipeline

variable {pipeline : Pipeline}

theorem service_drop (pipeline : Pipeline) (flusher : Flusher) :
    (pipeline.after (.drop flusher)).service = pipeline.service := by
  cases flusher <;> rfl

theorem batches_of_isSeen (pipeline : Pipeline) {move : Move} (seen : move.isSeen = true) :
    (pipeline.after move).batches = pipeline.batches := by
  have visible : move.flushes = false := by simpa [Move.isSeen] using seen
  cases move with
  | event event =>
      cases event with
      | track key quantity =>
          exact congrArg Store.batches (pipeline.service.store_track key quantity)
      | close =>
          rw [batches, after_event, service_close]
          rfl
      | _ => cases visible
  | act action =>
      rcases pipeline.after_act_cases action with ⟨key, quantity, rfl⟩ | rfl | ⟨_, result, keeps⟩
      · exact congrArg Store.batches (pipeline.service.store_track key quantity)
      · rfl
      · rw [result]
        exact keeps.store.batches
  | drop flusher => cases visible
  | put row => rfl
  | switch method down => rfl
  | clock now => rfl
  | backend backend => rfl

theorem batches_filter_isSeen (pipeline : Pipeline) (moves : List Move) :
    (pipeline.afterAll (moves.filter Move.isSeen)).batches = pipeline.batches := by
  apply afterAll_induction (P := fun later => later.batches = pipeline.batches) rfl
  intro later move member same
  exact (later.batches_of_isSeen (List.mem_filter.mp member).2).trans same

theorem agrees_of_seen (buffered : pipeline.Buffered) {left right : List Move}
    (same : left.filter Move.isSeen = right.filter Move.isSeen)
    (leftUnwritten : (pipeline.afterAll left).batches = pipeline.batches)
    (rightUnwritten : (pipeline.afterAll right).batches = pipeline.batches) :
    (pipeline.afterAll left).service.tracker.Agrees (pipeline.afterAll right).service.tracker := by
  have leftForm := (afterAll_buffered buffered left).1.service.tracker
  have rightForm := (afterAll_buffered buffered right).1.service.tracker
  refine Tracker.agrees_of_pending leftForm rightForm fun key => ?_
  have accepted : pipeline.accepted key left = pipeline.accepted key right := by
    rw [(alike_afterAll (.refl pipeline.service) left).2 key,
      (alike_afterAll (.refl pipeline.service) right).2 key]
    exact congrArg _ same
  rw [pending_afterAll buffered leftUnwritten, pending_afterAll buffered rightUnwritten, accepted]

theorem store_work (pipeline : Pipeline)
    (unwritten : (pipeline.after (.event .work)).batches = pipeline.batches) :
    (pipeline.after (.event .work)).service.store = pipeline.service.store := by
  rcases pipeline.work_batch with same | ⟨_, _, _, _, _, _, _, store, _⟩
  · exact same
  · rw [batches, store] at unwritten
    exact absurd unwritten (Nat.succ_ne_self _)

/-- What a flush leaves that has failed: the same store, an empty slot, and all that was pending in the
live buffer. -/
structure Restored (before after : Service) : Prop where
  store : after.store = before.store
  inflight : after.tracker.inflight = []
  live : ∀ key, after.tracker.live.get key = before.tracker.pending key
  keys : ∀ key, key ∈ after.tracker.live.keys ↔ key ∈ before.tracker.unflushed

theorem restored_of_error (buffered : pipeline.Buffered) {fault : Fault}
    (ends : pipeline.outcome? = some (.error fault)) :
    Restored pipeline.service (pipeline.after (.event .work)).service := by
  have held : pipeline.stage ≠ .queued := by
    intro queued
    cases jobs : pipeline.jobs with
    | nil => simp [outcome?, jobs] at ends
    | cons job rest =>
        rw [stage_of_cons jobs] at queued
        by_cases empty : pipeline.service.beginFlush.tracker.inflight = [] <;>
          simp [outcome?, jobs, queued, Service.stepFlush, empty] at ends
  obtain ⟨trigger, records, _, failure, ended⟩ := ended_cases held ends
  rcases pipeline.service.endFlush_cases trigger records with ⟨_, success, _⟩ |
    ⟨_, _, tracker, store, _⟩
  · exact absurd (success.symm.trans failure) (by simp)
  · rw [ended]
    have live : ∀ key, (pipeline.service.endFlush trigger records).2.tracker.live.get key =
        pipeline.service.tracker.pending key := by
      intro key
      rw [tracker]
      exact Buffer.get_merge buffered.service.live buffered.service.inflight key
    refine ⟨store, by rw [tracker]; rfl, live, fun key => ?_⟩
    have form : (pipeline.service.endFlush trigger records).2.tracker.live.WellFormed := by
      rw [tracker]
      exact Buffer.wellFormed_merge buffered.service.live buffered.service.inflight
    rw [← Buffer.get_pos_iff form, live, Tracker.mem_unflushed_iff_pending_pos buffered.service.tracker]

theorem store_of_flushes (pipeline : Pipeline) {move : Move} (flushes : move.flushes = true)
    (steady : ∀ method down, move ≠ .switch method down)
    (unwritten : (pipeline.after move).batches = pipeline.batches) :
    (pipeline.after move).service.store = pipeline.service.store := by
  cases move with
  | event event =>
      rcases pipeline.perform_cases event with ⟨key, quantity, rfl, _⟩ | rfl | ⟨_, reorders⟩
      · cases flushes
      · exact pipeline.store_work unwritten
      · obtain ⟨wakeup, closed, service⟩ := reorders.service
        change (pipeline.perform event).2.service.store = _
        rw [service]
  | drop flusher => rw [service_drop]
  | switch method down => exact absurd rfl (steady method down)
  | _ => cases flushes

/-- A flush that fails or is dropped is not seen. Its steps leave the store as it is, and dropping it
leaves the buffers as well. Until the next batch is written, what can be read off the tracker is decided
by what is seen of the moves, so it is as if no flush had begun. A flush that fails puts everything back
into the live buffer. The next flush that succeeds writes one row for each key, with what was pending
under it when an earlier flush took its snapshot and what has come in since, cut off at the greatest
amount. -/
theorem flushes_unseen (start : Pipeline) (opened : start.Opened) (before : List Move) :
    let begun := start.afterAll before
    (∀ move, move.flushes = true → (∀ method down, move ≠ .switch method down) →
      (begun.after move).batches = begun.batches →
      (begun.after move).service.store = begun.service.store) ∧
    (∀ flusher, (begun.after (.drop flusher)).service = begun.service) ∧
    (∀ left right : List Move, left.filter Move.isSeen = right.filter Move.isSeen →
      (begun.afterAll left).batches = begun.batches → (begun.afterAll right).batches = begun.batches →
      (begun.afterAll left).service.tracker.Agrees (begun.afterAll right).service.tracker) ∧
    (∀ moves : List Move, (begun.afterAll (moves.filter Move.isSeen)).batches = begun.batches) ∧
    (∀ fault, begun.outcome? = some (.error fault) →
      Restored begun.service (begun.after (.event .work)).service) ∧
    ∀ moves during report, (begun.afterAll moves).batches = begun.batches →
      (begun.afterAll moves).Flushes during (.ok report) →
      (∃ keys periodOf, (begun.afterAll moves).Landed during report keys periodOf) ∧
      ∀ key, (begun.afterAll moves).service.tracker.pending key =
        min (begun.service.tracker.pending key + begun.accepted key moves) greatest := by
  intro begun
  have buffered : begun.Buffered := (afterAll_buffered opened.buffered before).1
  refine ⟨fun move => begun.store_of_flushes, begun.service_drop, fun left right => ?_,
    begun.batches_filter_isSeen, fun fault => restored_of_error buffered, ?_⟩
  · exact agrees_of_seen buffered
  · intro moves during report unwritten flushes
    exact ⟨flushes.landed (afterAll_buffered buffered moves).1, pending_afterAll buffered unwritten⟩

def abandonedAndAsked : List Move :=
  [.event .work, .event (.abandon 1), .event (.track trackedKey 2), .event (.flush 2)]

theorem flushes_unseen_abandoned :
    let begun := launched.afterAll askedToFlush
    let later := begun.afterAll abandonedAndAsked
    launched.Opened ∧ later.batches = begun.batches ∧ later.Flushes (trackedMeanwhile []) (.ok ⟨1, 7⟩) ∧
    (∃ keys periodOf, later.Landed (trackedMeanwhile []) ⟨1, 7⟩ keys periodOf) ∧
    later.service.tracker.pending trackedKey = 7 ∧
    later.service.tracker.Agrees
      (begun.afterAll (abandonedAndAsked.filter Move.isSeen)).service.tracker := by
  intro begun later
  have unwritten : later.batches = begun.batches := by decide +kernel
  have flushes : later.Flushes (trackedMeanwhile []) (.ok ⟨1, 7⟩) :=
    ⟨by decide +kernel, by decide +kernel, by decide +kernel⟩
  obtain ⟨_, _, agrees, seen, _, lands⟩ := flushes_unseen launched launched_opened askedToFlush
  obtain ⟨landed, pending⟩ := lands abandonedAndAsked _ _ unwritten flushes
  refine ⟨launched_opened, unwritten, flushes, landed, ?_, ?_⟩
  · rw [pending]
    decide +kernel
  · exact agrees _ _ (by simp) unwritten (seen _)

end Pipeline

end UsageBilling
