import UsageBilling.Proofs.Tracker.Landing
/-!
The tracks of a key, one by one: which of them no snapshot has taken, which the last one took, and which
a batch has stored. However they were split over flushes that failed, were dropped or succeeded: what is
pending is the exact sum of those that are not stored, cut off at the greatest amount, and what is stored
is cut off where the exact sum of the others is.
-/
namespace UsageBilling

open Quantity

/-- The amounts of a key, track by track. -/
structure Backlog where
  /-- No snapshot has taken them. -/
  waiting : List Int := []
  /-- Snapshots have taken them, and none of these flushes has written its batch. -/
  taken : List Int := []
  stored : List Int := []
  deriving DecidableEq

namespace Backlog

def unstored (backlog : Backlog) : List Int := backlog.taken ++ backlog.waiting

def all (backlog : Backlog) : List Int := backlog.stored ++ backlog.unstored

end Backlog

namespace Pipeline

variable {pipeline : Pipeline} {key : UsageKey} {tracks : Backlog} {move : Move}

def booked (pipeline : Pipeline) (key : UsageKey) (move : Move) : List Int :=
  if pipeline.accepts key move = 0 then [] else [ofCount (pipeline.accepts key move)]

def bookings (pipeline : Pipeline) (key : UsageKey) : List Move → List Int
  | [] => []
  | move :: moves => pipeline.booked key move ++ (pipeline.after move).bookings key moves

/-- Where a move leaves the tracks: a step of a flush may write a batch or take a snapshot, and any other
move may bring a track. -/
def follow (pipeline : Pipeline) (key : UsageKey) (tracks : Backlog) : Move → Backlog
  | .event .work =>
    let worked := pipeline.after (.event .work)
    if pipeline.batches < worked.batches then
      { tracks with taken := [], stored := tracks.stored ++ tracks.taken }
    else if pipeline.stage = .queued ∧ worked.stage ≠ .queued then
      { tracks with waiting := [], taken := tracks.taken ++ tracks.waiting }
    else tracks
  | move => { tracks with waiting := tracks.waiting ++ pipeline.booked key move }

def followAll (pipeline : Pipeline) (key : UsageKey) (tracks : Backlog) : List Move → Backlog
  | [] => tracks
  | move :: moves => (pipeline.after move).followAll key (pipeline.follow key tracks move) moves

def backlog (pipeline : Pipeline) (key : UsageKey) (moves : List Move) : Backlog :=
  pipeline.followAll key {} moves

theorem follow_of_ne (idle : move ≠ .event .work) : pipeline.follow key tracks move =
    { tracks with waiting := tracks.waiting ++ pipeline.booked key move } := by
  unfold follow
  split
  · exact absurd rfl idle
  · rfl

theorem booked_work (pipeline : Pipeline) (key : UsageKey) : pipeline.booked key (.event .work) = [] :=
  rfl

theorem all_follow (pipeline : Pipeline) (key : UsageKey) (tracks : Backlog) (move : Move) :
    (pipeline.follow key tracks move).all = tracks.all ++ pipeline.booked key move := by
  by_cases work : move = .event .work
  · subst work
    rw [booked_work, List.append_nil]
    unfold follow
    dsimp only
    split
    · simp [Backlog.all, Backlog.unstored]
    · split
      · simp [Backlog.all, Backlog.unstored]
      · rfl
  · rw [follow_of_ne work]
    simp [Backlog.all, Backlog.unstored]

theorem all_followAll (pipeline : Pipeline) (key : UsageKey) (tracks : Backlog) (moves : List Move) :
    (pipeline.followAll key tracks moves).all = tracks.all ++ pipeline.bookings key moves := by
  induction moves generalizing pipeline tracks with
  | nil => exact (List.append_nil _).symm
  | cons move moves ih => rw [followAll, ih, all_follow, bookings, List.append_assoc]

theorem isAmount_of_mem_booked {amount : Int} (member : amount ∈ pipeline.booked key move) :
    IsAmount amount := by
  unfold booked at member
  split at member
  · cases member
  · next positive =>
      rw [List.mem_singleton.mp member]
      exact ofCount_isAmount positive

theorem sum_booked (pipeline : Pipeline) (key : UsageKey) (move : Move) :
    (pipeline.booked key move).sum = min (pipeline.accepts key move : Int) greatest := by
  have bound := greatest_nonneg
  unfold booked
  split
  · next none => rw [List.sum_nil, none]; omega
  · rw [List.sum_singleton, ofCount]

/-- The tracks of a key account for what lies in the buffers and in the store. -/
structure Follows (pipeline : Pipeline) (key : UsageKey) (tracks : Backlog) : Prop where
  amounts : ∀ amount ∈ tracks.all, IsAmount amount
  pending : pipeline.service.tracker.pending key = min tracks.unstored.sum greatest
  /-- A flush that holds the lock has all that was taken in its slot. -/
  live : pipeline.stage ≠ .queued →
    pipeline.service.tracker.live.get key = min tracks.waiting.sum greatest
  inflight : pipeline.stage ≠ .queued →
    pipeline.service.tracker.inflight.get key = min tracks.taken.sum greatest
  stored : min (pipeline.service.store.stored key) greatest = min tracks.stored.sum greatest

theorem Follows.nonneg (follows : pipeline.Follows key tracks) :
    0 ≤ tracks.waiting.sum ∧ 0 ≤ tracks.taken.sum ∧ 0 ≤ tracks.stored.sum := by
  have each : ∀ amounts : List Int, amounts ⊆ tracks.all → 0 ≤ amounts.sum := by
    intro amounts within
    apply List.sum_nonneg
    intro amount member
    exact le_trans (by decide) (follows.amounts amount (within member)).1
  refine ⟨each _ ?_, each _ ?_, each _ ?_⟩ <;> intro amount member <;>
    simp [Backlog.all, Backlog.unstored, member]

theorem contents_of_ne (pipeline : Pipeline) (idle : move ≠ .event .work) :
    (pipeline.after move).service.store.contents = pipeline.service.store.contents := by
  rcases pipeline.after_cases move with ⟨key, quantity, result, _⟩ | ⟨work, _⟩ |
    ⟨reorders | surrounds, _⟩
  · rw [result]
    exact congrArg Store.contents (pipeline.service.store_track key quantity)
  · exact absurd work idle
  · obtain ⟨wakeup, closed, service⟩ := reorders.service
    rw [service]
  · exact surrounds.contents

theorem pending_after (buffered : pipeline.Buffered)
    (contents : (pipeline.after move).service.store.contents = pipeline.service.store.contents)
    (key : UsageKey) : (pipeline.after move).service.tracker.pending key =
      min (pipeline.service.tracker.pending key + pipeline.accepts key move) greatest := by
  have unwritten : (pipeline.afterAll [move]).service.store.contents =
      pipeline.service.store.contents := contents
  have pending := pending_of_contents buffered unwritten key
  simpa [afterAll, accepted] using pending

theorem work_written (buffered : pipeline.Buffered)
    (written : pipeline.batches < (pipeline.after (.event .work)).batches) :
    let worked := pipeline.after (.event .work)
    pipeline.stage ≠ .queued ∧ worked.stage = .queued ∧
      worked.service.tracker = pipeline.service.tracker.land ∧
      ∀ key, worked.service.store.stored key =
        pipeline.service.store.stored key + pipeline.service.tracker.inflight.get key := by
  rcases pipeline.work_batch with same | ⟨job, rest, records, jobs, stage, queue, tracker, store, _⟩
  · rw [batches, batches, same] at written
    exact absurd written (Nat.lt_irrefl _)
  · have holder : pipeline.stage = .writing records := (stage_of_cons jobs).trans stage
    refine ⟨by simp [holder], buffered.exclusive.stage_of_done jobs queue, tracker, fun key => ?_⟩
    rw [store]
    exact Service.stored_of_written (holder ▸ buffered.service) key

theorem Follows.written (follows : pipeline.Follows key tracks) (balanced : pipeline.Balanced)
    (written : pipeline.batches < (pipeline.after (.event .work)).batches) :
    (pipeline.after (.event .work)).Follows key
      { tracks with taken := [], stored := tracks.stored ++ tracks.taken } := by
  obtain ⟨held, free, tracker, rows⟩ := work_written balanced.buffered written
  have live := follows.live held
  have inflight := follows.inflight held
  have bound := greatest_nonneg
  obtain ⟨waitingNonneg, takenNonneg, storedNonneg⟩ := follows.nonneg
  have rowsNonneg := balanced.service.stored_nonneg key
  refine ⟨fun amount member => follows.amounts amount ?_, ?_, fun still => absurd free still,
    fun still => absurd free still, ?_⟩
  · simpa [Backlog.all, Backlog.unstored] using member
  · rw [tracker]
    change add (pipeline.service.tracker.live.get key) 0 = min ([] ++ tracks.waiting).sum greatest
    rw [live, List.nil_append, add_zero (by omega) (by omega)]
  · rw [rows, inflight, List.sum_append]
    have before := follows.stored
    omega

theorem Follows.begun (follows : pipeline.Follows key tracks) (buffered : pipeline.Buffered)
    (queued : pipeline.stage = .queued) (began : (pipeline.after (.event .work)).stage ≠ .queued) :
    (pipeline.after (.event .work)).Follows key
      { tracks with waiting := [], taken := tracks.taken ++ tracks.waiting } := by
  obtain ⟨service, _⟩ := begun_cases buffered queued began
  have bound := greatest_nonneg
  have slot : (pipeline.after (.event .work)).service.tracker.inflight.get key =
      min tracks.unstored.sum greatest := by
    rw [service, get_beginFlush buffered, follows.pending]
  have none : (pipeline.after (.event .work)).service.tracker.live.get key = 0 := by
    rw [service]
    rfl
  refine ⟨fun amount member => follows.amounts amount ?_, ?_, fun _ => ?_, fun _ => slot, ?_⟩
  · simpa [Backlog.all, Backlog.unstored] using member
  · obtain ⟨waitingNonneg, takenNonneg, _⟩ := follows.nonneg
    have unstored : tracks.unstored.sum = tracks.taken.sum + tracks.waiting.sum := List.sum_append
    rw [Tracker.pending, none, slot, add_of_nonneg le_rfl (by omega)]
    simp only [Backlog.unstored, List.append_nil, List.sum_append] at unstored ⊢
    omega
  · rw [none, List.sum_nil]
    omega
  · rw [service]
    exact follows.stored

theorem Follows.kept (follows : pipeline.Follows key tracks) (buffered : pipeline.Buffered)
    (contents : (pipeline.after move).service.store.contents = pipeline.service.store.contents)
    (late : (pipeline.after move).stage ≠ .queued → pipeline.stage ≠ .queued) :
    (pipeline.after move).Follows key
      { tracks with waiting := tracks.waiting ++ pipeline.booked key move } := by
  have booked := pipeline.sum_booked key move
  have bound := greatest_nonneg
  refine ⟨fun amount member => ?_, ?_, fun still => ?_, fun still => ?_, ?_⟩
  · simp only [Backlog.all, Backlog.unstored, ← List.append_assoc] at member
    rcases List.mem_append.mp member with earlier | last
    · exact follows.amounts amount (by simpa [Backlog.all, Backlog.unstored] using earlier)
    · exact isAmount_of_mem_booked last
  · have unstored : tracks.unstored.sum = tracks.taken.sum + tracks.waiting.sum := List.sum_append
    obtain ⟨waitingNonneg, takenNonneg, _⟩ := follows.nonneg
    rw [pending_after buffered contents, follows.pending]
    simp only [Backlog.unstored, List.sum_append] at unstored ⊢
    omega
  · have collects := (after_holds buffered move (late still) still).1
    rw [collects.live, follows.live (late still), List.sum_append]
    obtain ⟨waitingNonneg, _, _⟩ := follows.nonneg
    omega
  · have collects := (after_holds buffered move (late still) still).1
    rw [collects.inflight]
    exact follows.inflight (late still)
  · rw [Store.stored_of_contents contents]
    exact follows.stored

theorem Follows.after (follows : pipeline.Follows key tracks) (balanced : pipeline.Balanced)
    (move : Move) : (pipeline.after move).Follows key (pipeline.follow key tracks move) := by
  have buffered := balanced.buffered
  by_cases work : move = .event .work
  · subst work
    unfold follow
    dsimp only
    split
    · next written => exact follows.written balanced written
    · next unwritten =>
        have grows := pipeline.batches_after (.event .work)
        have contents := grows.2 (by omega)
        split
        · next begins => exact follows.begun buffered begins.1 begins.2
        · next goesOn =>
            have kept := follows.kept buffered contents fun still queued => goesOn ⟨queued, still⟩
            rwa [booked_work, List.append_nil] at kept
  -- Only a step of a flush writes a batch or takes a snapshot.
  · rw [follow_of_ne work]
    refine follows.kept buffered (contents_of_ne pipeline work) fun still queued => ?_
    exact work (eq_work_of_begun buffered.exclusive queued still)

theorem Follows.afterAll (follows : pipeline.Follows key tracks) (balanced : pipeline.Balanced)
    (moves : List Move) :
    (pipeline.afterAll moves).Follows key (pipeline.followAll key tracks moves) := by
  induction moves generalizing pipeline tracks with
  | nil => exact follows
  | cons move moves ih => exact ih (follows.after balanced move) (after_balanced balanced move).1

theorem Fresh.follows (fresh : pipeline.Fresh) (key : UsageKey) : pipeline.Follows key {} := by
  have bound := greatest_nonneg
  have free := stage_of_nil fresh.jobs
  refine ⟨by simp [Backlog.all, Backlog.unstored], ?_, fun held => absurd free held,
    fun held => absurd free held, ?_⟩
  · simp [Tracker.pending, fresh.live, fresh.inflight, Buffer.get_nil, Backlog.unstored,
      add_zero le_rfl bound, bound]
  · simp [Store.stored, fresh.usage]

end Pipeline

end UsageBilling
