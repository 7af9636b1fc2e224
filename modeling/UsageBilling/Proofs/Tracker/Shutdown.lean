import UsageBilling.Proofs.Tracker.Closing
/-!
The contract of closing. In every state that can be reached, whatever calls, flushes, the scheduler and
other closings have done before: one closing gets past the check and nothing is accepted after it; if
it succeeds nothing is left and nothing will be written; if it fails or runs out of time it says how
much is left, and the next flush that succeeds stores all of it.
-/
namespace UsageBilling

open Quantity

namespace Pipeline

/-- Closing a tracker in this state. `asked` says whether somebody has closed it since `start`,
`accepted` how many units of a key have been accepted since then. -/
structure ClosingContract (pipeline : Pipeline) (start : Service) (asked : Prop)
    (accepted : UsageKey → Nat) : Prop where
  closed : pipeline.service.tracker.closed = true ↔ asked
  /-- The first closing gets past the check. -/
  first : ¬asked → pipeline.perform .close =
    (none, { pipeline with closing := some .schedulerEnd }.withTracker
      { pipeline.service.tracker with closed := true })
  others : asked → pipeline.perform .close = (some (.closed (.error .closed)), pipeline)
  /-- Nothing is accepted any more, not even an amount of zero. -/
  refused : asked → ∀ key quantity,
    pipeline.service.track key quantity = (.error .closed, pipeline.service) ∧
    pipeline.perform (.track key quantity) = (some (.tracked (.error .closed)), pipeline)
  /-- After a success both buffers stay empty and no row is added. -/
  succeeded : ∀ event report,
    (pipeline.perform event).1 = some (.closed (.ok report)) → ∀ moves,
      ((pipeline.perform event).2.afterAll moves).service.tracker.live = [] ∧
      ((pipeline.perform event).2.afterAll moves).service.tracker.inflight = [] ∧
      ((pipeline.perform event).2.afterAll moves).service.store.contents =
        (pipeline.perform event).2.service.store.contents
  /-- After a failure the keys that are pending are counted, and every unit is stored or pending. -/
  failed : ∀ event entries fault,
    (pipeline.perform event).1 = some (.closed (.error (.finalFlush entries fault))) →
      (∃ quantity, (pipeline.perform event).2.service.tracker.Leftover entries quantity) ∧
      start.Accounts (pipeline.perform event).2.service accepted
  /-- Out of time, what is left is counted and summed up, and every unit is stored or pending. -/
  timedOut : ∀ event limitSecs entries quantity,
    (pipeline.perform event).1 = some (.closed (.error (.timedOut limitSecs entries quantity))) →
      (pipeline.perform event).2.service.tracker.Leftover entries quantity ∧
      start.Accounts (pipeline.perform event).2.service accepted
  /-- Once a flush that took its snapshot after the time was up has succeeded, all of it is stored. -/
  recovered : ∀ event limitSecs entries quantity,
    (pipeline.perform event).1 = some (.closed (.error (.timedOut limitSecs entries quantity))) →
    ∀ between flusher during later,
      ((pipeline.perform event).2.afterAll between).Unbegun flusher →
      (((pipeline.perform event).2.afterAll between).afterAll during).Succeeds flusher →
      let ended := (pipeline.perform event).2.afterAll
        (between ++ (during ++ .event .work :: later))
      ended.service.tracker.live = [] ∧ ended.service.tracker.inflight = [] ∧
        ∀ key, Carries 0 (accepted key)
          (ended.service.store.stored key - start.store.stored key)

variable {pipeline : Pipeline} {event : Event} {start : Service} {accepted : UsageKey → Nat}

theorem Guarded.failed (guarded : pipeline.Guarded)
    (conserves : start.Conserves pipeline.service accepted)
    (empty : ∀ key, start.unstored key = 0) {entries : Nat} {fault : Fault}
    (told : (pipeline.perform event).1 = some (.closed (.error (.finalFlush entries fault)))) :
    (∃ quantity, (pipeline.perform event).2.service.tracker.Leftover entries quantity) ∧
      start.Accounts (pipeline.perform event).2.service accepted := by
  obtain ⟨rfl, counted⟩ := entries_of_finalFlush told
  obtain ⟨buffered, worked⟩ := work_buffered guarded.buffered
  constructor
  · rw [counted]
    exact ⟨_, Tracker.leftover_unflushed buffered.service.tracker⟩
  · exact (conserves.trans worked).accounts empty buffered.service

theorem Guarded.timedOut (guarded : pipeline.Guarded)
    (conserves : start.Conserves pipeline.service accepted)
    (empty : ∀ key, start.unstored key = 0) {limitSecs entries : Nat} {quantity : Int}
    (told : (pipeline.perform event).1 =
      some (.closed (.error (.timedOut limitSecs entries quantity)))) :
    (pipeline.perform event).2.service.tracker.Leftover entries quantity ∧
      start.Accounts (pipeline.perform event).2.service accepted := by
  obtain ⟨_, _, service, counted, summed⟩ := numbers_of_timedOut told
  rw [service]
  constructor
  · rw [counted, summed]
    exact Tracker.leftover_unflushed guarded.buffered.service.tracker
  · exact conserves.accounts empty guarded.buffered.service

/-- Nothing is accepted after the time of a closing is up, so what a later flush has stored when both
buffers are empty is what was accepted before. -/
theorem Guarded.recovered (guarded : pipeline.Guarded)
    (conserves : start.Conserves pipeline.service accepted)
    (empty : ∀ key, start.unstored key = 0) {limitSecs entries : Nat} {quantity : Int}
    (told : (pipeline.perform event).1 =
      some (.closed (.error (.timedOut limitSecs entries quantity))))
    {flusher : Flusher} (between during later : List Move)
    (unbegun : ((pipeline.perform event).2.afterAll between).Unbegun flusher)
    (succeeds : (((pipeline.perform event).2.afterAll between).afterAll during).Succeeds flusher) :
    ((pipeline.perform event).2.afterAll (between ++ (during ++ .event .work :: later))).Drained ∧
      ∀ key, Carries 0 (accepted key) (((pipeline.perform event).2.afterAll
        (between ++ (during ++ .event .work :: later))).service.store.stored key -
          start.store.stored key) := by
  obtain ⟨_, closing, _, _, _⟩ := numbers_of_timedOut told
  have closed := guarded.closed_of_closing closing
  have after : ∀ moves, (pipeline.perform event).2.afterAll moves =
      pipeline.afterAll (.event event :: moves) := fun _ => rfl
  have reached := guarded.afterAll (.event event :: between)
  have stays : (pipeline.afterAll (.event event :: between)).service.tracker.closed = true :=
    (pipeline.closed_afterAll _).mpr (.inl closed)
  have sweeping : ((pipeline.perform event).2.afterAll between).Sweeping flusher :=
    ⟨reached.buffered, stays, unbegun.swept⟩
  have drained : ((pipeline.perform event).2.afterAll
      (between ++ (during ++ .event .work :: later))).Drained := by
    rw [afterAll_append, afterAll_append, afterAll_cons]
    exact (((sweeping.afterAll during).drained succeeds).afterAll later).1
  refine ⟨drained, fun key => ?_⟩
  -- A closed tracker accepts nothing, so the total is what it was when the time was up.
  have moved := (afterAll_buffered guarded.buffered
    (.event event :: (between ++ (during ++ .event .work :: later)))).2
  have total := (conserves.trans moved).carries key
  rw [empty, accepted_of_closed closed, Nat.add_zero, ← after, drained.unstored,
    Int.add_zero] at total
  exact total

theorem Guarded.closingContract (guarded : pipeline.Guarded)
    (conserves : start.Conserves pipeline.service accepted)
    (empty : ∀ key, start.unstored key = 0) :
    pipeline.ClosingContract start (pipeline.service.tracker.closed = true) accepted where
  closed := Iff.rfl
  first := by
    intro opened
    simp [perform, opened]
  others := by
    intro closed
    simp [perform, closed]
  refused := by
    intro closed key quantity
    have refused := Service.track_of_closed closed key quantity
    exact ⟨refused, by simp [perform, refused]⟩
  succeeded := by
    intro event report told moves
    obtain ⟨drained, contents⟩ := (guarded.drained told).afterAll moves
    exact ⟨drained.live, drained.inflight, contents⟩
  failed := by
    intro event entries fault told
    exact guarded.failed conserves empty told
  timedOut := by
    intro event limitSecs entries quantity told
    exact guarded.timedOut conserves empty told
  recovered := by
    intro event limitSecs entries quantity told between flusher during later unbegun succeeds
    obtain ⟨drained, stored⟩ :=
      guarded.recovered conserves empty told between during later unbegun succeeds
    exact ⟨drained.live, drained.inflight, stored⟩

/-- The contract holds wherever a run from an open tracker leads. -/
theorem closingContract_afterAll {opening : Pipeline} (opened : opening.Opened)
    (before : List Move) :
    (opening.afterAll before).ClosingContract opening.service (.event .close ∈ before)
      fun key => opening.accepted key before := by
  have guarded := opened.guarded.afterAll before
  have conserves := (afterAll_buffered opened.buffered before).2
  have asked : ((opening.afterAll before).service.tracker.closed = true) =
      (.event .close ∈ before) := by
    rw [closed_afterAll, opened.closed]
    simp
  exact asked ▸ guarded.closingContract conserves opened.unstored

def launched : Pipeline := { service := { clock := ⟨1700000000, 0⟩ } }

theorem launched_opened : launched.Opened := ⟨rfl, rfl, rfl, rfl, rfl⟩

def trackedKey : UsageKey := ⟨⟨1⟩, .testRuns⟩

def closingAtWrite (quantities : List Nat) : List Move :=
  quantities.map (fun quantity => .event (.track trackedKey quantity)) ++
    [.event .close, .event .stop, .event .join, .event .work, .event .work, .event .work]

def closingAtOutage (quantities : List Nat) : List Move :=
  closingAtWrite quantities ++ [.switch .insertUsage true]

/-- One run on which a closing can succeed or run out of time, where a flush of a caller stores what is
left, and one on which it fails. -/
theorem closingContract_afterAll_atWrite :
    ∃ (start : Pipeline) (before failing : List Move), start.Opened ∧
      (start.afterAll before).ClosingContract start.service (.event .close ∈ before)
        (fun key => start.accepted key before) ∧
      ((start.afterAll before).perform .work).1 = some (.closed (.ok ⟨1, 5⟩)) ∧
      ((start.afterAll before).perform (.expire 30)).1 =
        some (.closed (.error (.timedOut 30 1 5))) ∧
      (∃ between during flusher,
        (((start.afterAll before).perform (.expire 30)).2.afterAll between).Unbegun flusher ∧
        ((((start.afterAll before).perform (.expire 30)).2.afterAll between).afterAll
          during).Succeeds flusher) ∧
      (start.afterAll failing).ClosingContract start.service (.event .close ∈ failing)
        (fun key => start.accepted key failing) ∧
      ((start.afterAll failing).perform .work).1 =
        some (.closed (.error (.finalFlush 1 Store.Method.insertUsage.outage))) := by
  refine ⟨launched, closingAtWrite [5], closingAtOutage [5], launched_opened,
    closingContract_afterAll launched_opened _, rfl, rfl, ?_,
    closingContract_afterAll launched_opened _, rfl⟩
  refine ⟨[.event (.flush 7)], [.event .work, .event .work, .event .work], .caller 7, ?_, ?_⟩
  · have queue : (((launched.afterAll (closingAtWrite [5])).perform (.expire 30)).2.afterAll
        [.event (.flush 7)]).jobs = [⟨.caller 7, .manual, .queued⟩] := rfl
    intro job member _
    rw [queue, List.mem_singleton] at member
    rw [member]
  · exact ⟨_, [], ⟨1, 5⟩, rfl, rfl, rfl⟩

/-- Units beyond the greatest amount of a key are cut off. So the units of a failed closing, with no
other flush about, need not all be stored or pending. -/
theorem accounted_ne_accepted_saturated :
    ¬ ∀ (start : Pipeline) (before : List Move) (event : Event) (entries : Nat) (fault : Fault),
      start.Opened →
      ((start.afterAll before).perform event).1 =
        some (.closed (.error (.finalFlush entries fault))) →
      ((start.afterAll before).perform event).2.jobs = [] →
      ∀ key, start.service.accountedSince ((start.afterAll before).perform event).2.service key =
        start.accepted key before := by
  intro all
  have same := all launched (closingAtOutage [9223372036854775807, 10]) .work 1
    Store.Method.insertUsage.outage launched_opened rfl rfl trackedKey
  have accounted : launched.service.accountedSince ((launched.afterAll
      (closingAtOutage [9223372036854775807, 10])).perform .work).2.service trackedKey =
      9223372036854775807 := by decide +kernel
  have accepted : launched.accepted trackedKey (closingAtOutage [9223372036854775807, 10]) =
      9223372036854775817 := by decide +kernel
  rw [accounted, accepted] at same
  exact absurd same (by decide)

end Pipeline

end UsageBilling
