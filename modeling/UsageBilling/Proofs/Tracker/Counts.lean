import Mathlib.Algebra.Ring.Nat
import UsageBilling.Proofs.Tracker.Conservation
/-!
What the counters of the tracker tell. On every way the pipeline can go they agree with the amounts that
have been accepted, the rows and batches in the store, the writes that failed, and the keys in the live
buffer: exactly, as long as a number fits into a word, and modulo the size of a word in any case.
-/
namespace UsageBilling

/-- A count as a word shows it. -/
structure Shows (shown actual : Nat) : Prop where
  word : shown % 2 ^ 64 = actual % 2 ^ 64
  exact : actual < 2 ^ 64 → shown = actual

theorem Shows.refl (count : Nat) : Shows count count := ⟨rfl, fun _ => rfl⟩

theorem Shows.add {shown actual : Nat} (told : Shows shown actual) (amount : Nat) :
    Shows ((shown + amount) % 2 ^ 64) (actual + amount) := by
  obtain ⟨word, exact⟩ := told
  constructor
  · omega
  · intro fits
    rw [exact (by omega), Nat.mod_eq_of_lt fits]

def Trigger.all : List Trigger := [manual, interval, threshold, retry, shutdown]

def Counter.isOfTracker : Counter → Bool
  | usageTracked _ | flushes .. | recordsFlushed _ => true
  | _ => false

namespace Counters

variable {counters : Counters}

def flushes (counters : Counters) (succeeded : Bool) : Nat :=
  (Trigger.all.map fun trigger => counters.value (.flushes trigger succeeded)).sum

theorem lookup_addTo (counter asked : Counter) (amount : Nat) (counts : List (Counter × Nat)) :
    ((addTo counter amount counts).lookup asked).getD 0 =
      if counter = asked then ((counts.lookup asked).getD 0 + amount) % 2 ^ 64
      else (counts.lookup asked).getD 0 := by
  induction counts with
  | nil =>
      by_cases same : counter = asked
      · simp [addTo, same]
      · have other : (asked == counter) = false := beq_eq_false_iff_ne.mpr (Ne.symm same)
        simp [addTo, same, List.lookup_cons, other]
  | cons entry counts ih =>
      obtain ⟨present, count⟩ := entry
      rw [addTo]
      by_cases own : present = counter
      · subst own
        by_cases same : present = asked
        · simp [same]
        · have other : (asked == present) = false := beq_eq_false_iff_ne.mpr (Ne.symm same)
          simp [same, List.lookup_cons, other]
      · rw [if_neg own, List.lookup_cons, List.lookup_cons]
        by_cases found : asked = present
        · subst found
          simp [Ne.symm own]
        · rw [beq_eq_false_iff_ne.mpr found]
          exact ih

theorem value_add (counters : Counters) (counter asked : Counter) (amount : Nat) :
    (counters.add counter amount).value asked =
      if counter = asked then (counters.value asked + amount) % 2 ^ 64 else counters.value asked :=
  lookup_addTo counter asked amount counters.counts

theorem value_add_self (counters : Counters) (counter : Counter) (amount : Nat) :
    (counters.add counter amount).value counter = (counters.value counter + amount) % 2 ^ 64 := by
  rw [value_add, if_pos rfl]

theorem value_add_other (counters : Counters) {counter asked : Counter} (other : counter ≠ asked)
    (amount : Nat) : (counters.add counter amount).value asked = counters.value asked := by
  rw [value_add, if_neg other]

theorem shows_increments {asked : Counter} {actual : Nat} (told : Shows (counters.value asked) actual)
    (turns : List Counter) :
    Shows ((turns.foldl increment counters).value asked) (actual + turns.count asked) := by
  induction turns generalizing counters actual with
  | nil => exact told
  | cons counter turns ih =>
      rw [List.foldl_cons, List.count_cons, Nat.add_comm (turns.count asked), ← Nat.add_assoc]
      apply ih
      rw [increment, value_add]
      by_cases same : counter = asked
      · simpa [same] using told.add 1
      · simpa [same] using told

theorem value_increments {asked : Counter} {turns : List Counter} (none : asked ∉ turns) :
    (turns.foldl increment counters).value asked = counters.value asked := by
  induction turns generalizing counters with
  | nil => rfl
  | cons counter turns ih =>
      obtain ⟨other, none⟩ := not_or.mp (List.mem_cons.not.mp none)
      rw [List.foldl_cons, ih none, increment, value_add_other _ (Ne.symm other)]

theorem shows_flushes {succeeded : Bool} {actual : Nat} (told : Shows (counters.flushes succeeded) actual)
    (trigger : Trigger) :
    Shows ((counters.increment (.flushes trigger succeeded)).flushes succeeded) (actual + 1) := by
  obtain ⟨word, exact⟩ := told
  simp only [flushes, Trigger.all, List.map_cons, List.map_nil, List.sum_cons, List.sum_nil] at word exact
  constructor
  · cases trigger <;>
      simp [flushes, Trigger.all, increment, value_add] <;> omega
  · intro fits
    cases trigger <;>
      simp [flushes, Trigger.all, increment, value_add] <;> omega

theorem flushes_congr {other : Counters} {succeeded : Bool}
    (same : ∀ trigger, other.value (.flushes trigger succeeded) =
      counters.value (.flushes trigger succeeded)) :
    other.flushes succeeded = counters.flushes succeeded := by
  simp [flushes, same]

end Counters

def Store.rowCount (store : Store) (metric : Metric) : Nat :=
  store.usage.countP fun row => row.metric = metric.name

theorem Store.rowCount_eq_contents (store : Store) (metric : Metric) :
    store.rowCount metric = store.contents.countP fun content => content.2.1.metric = metric.name := by
  rw [rowCount, contents, List.countP_map]
  rfl

theorem Store.rowCount_appendUsage (store : Store) (usages : List (Uuid × NewUsage)) (now : Instant)
    (metric : Metric) : (store.appendUsage usages now).rowCount metric =
      store.rowCount metric + (usages.map Prod.snd).countP fun usage => usage.metric = metric := by
  rw [rowCount_eq_contents, rowCount_eq_contents, contents_appendUsage, List.countP_append, List.countP_map,
    List.countP_map]
  congr 1
  apply List.countP_congr
  intro entry _
  simpa using ⟨Metric.name_injective, congrArg Metric.name⟩

/-- The tracker's counters tell what has become of usage: what came in, the rows and batches in the store,
the writes that the store refused, and the keys in the live buffer. -/
structure Service.Tally (service : Service) (tracked : Metric → Nat) (refused : Nat) : Prop where
  tracked : ∀ metric, service.counters.value (.usageTracked metric) = tracked metric % 2 ^ 64
  rows : ∀ metric,
    Shows (service.counters.value (.recordsFlushed metric)) (service.store.rowCount metric)
  batches : Shows (service.counters.flushes true) service.store.batches
  refused : Shows (service.counters.flushes false) refused
  gauge : service.counters.bufferedKeys = service.tracker.live.length

structure Service.Uncounted (before after : Service) : Prop where
  values : ∀ counter : Counter, counter.isOfTracker = true →
    after.counters.value counter = before.counters.value counter
  gauge : after.counters.bufferedKeys = before.counters.bufferedKeys
  live : after.tracker.live = before.tracker.live
  contents : after.store.contents = before.store.contents
  batches : after.store.batches = before.store.batches

namespace Service

variable {service after : Service} {tracked : Metric → Nat} {refused : Nat}

theorem Tally.uncounted (tally : Tally service tracked refused) (uncounted : Uncounted service after) :
    Tally after tracked refused := by
  obtain ⟨values, gauge, live, contents, batches⟩ := uncounted
  constructor
  · intro metric
    rw [values _ rfl, tally.tracked]
  · intro metric
    rw [values _ rfl, Store.rowCount_eq_contents, contents, ← Store.rowCount_eq_contents]
    exact tally.rows metric
  · rw [batches, Counters.flushes_congr fun trigger => values (.flushes trigger true) rfl]
    exact tally.batches
  · rw [Counters.flushes_congr fun trigger => values (.flushes trigger false) rfl]
    exact tally.refused
  · rw [gauge, live, tally.gauge]

theorem Tally.track (tally : Tally service tracked refused) (key : UsageKey) (quantity : Nat) :
    Tally (service.track key quantity).2 (fun metric => tracked metric +
      if key.metric = metric ∧ (service.track key quantity).1.isOk
      then (Quantity.ofCount quantity).toNat else 0) refused := by
  unfold Service.track
  split
  · simpa [Except.isOk, Except.toBool] using tally
  · split
    · next zero => simpa [zero, Quantity.ofCount, Quantity.greatest] using tally
    · have others : ∀ {counter : Counter}, Counter.usageTracked key.metric ≠ counter →
          (service.counters.add (.usageTracked key.metric) (Quantity.ofCount quantity).toNat).value
            counter = service.counters.value counter := fun other =>
        service.counters.value_add_other other _
      refine ⟨fun metric => ?_, fun metric => ?_, ?_, ?_, rfl⟩
      · change (service.counters.add _ _).value _ = _
        by_cases same : key.metric = metric
        · subst same
          simp [Counters.value_add_self, tally.tracked, Except.isOk, Except.toBool]
        · rw [others (by simpa using same), tally.tracked, if_neg fun both => same both.1, Nat.add_zero]
      · change Shows ((service.counters.add _ _).value _) _
        rw [others (by simp)]
        exact tally.rows metric
      · change Shows ((service.counters.add _ _).flushes true) _
        rw [Counters.flushes_congr fun trigger => others (by simp)]
        exact tally.batches
      · change Shows ((service.counters.add _ _).flushes false) _
        rw [Counters.flushes_congr fun trigger => others (by simp)]
        exact tally.refused

theorem Tally.beginFlush (tally : Tally service tracked refused) :
    Tally service.beginFlush tracked refused :=
  ⟨tally.tracked, tally.rows, tally.batches, tally.refused, rfl⟩

theorem counters_foldl_count (records : List NewUsage) (counter : NewUsage → Counter) (start : Service) :
    (records.foldl (fun s record => s.count (counter record)) start).counters =
      (records.map counter).foldl Counters.increment start.counters := by
  induction records generalizing start with
  | nil => rfl
  | cons record records ih => exact ih (start.count (counter record))

def refusal (store : Store) (rows : List (Uuid × NewUsage)) (now : Instant) : Nat :=
  if (store.insertUsage rows now).1.isOk then 0 else 1

theorem value_countRows {counter : Counter} (other : ∀ metric, counter ≠ .recordsFlushed metric)
    (counters : Counters) (records : List NewUsage) :
    ((records.map fun record => Counter.recordsFlushed record.metric).foldl Counters.increment
      counters).value counter = counters.value counter := by
  apply Counters.value_increments
  intro member
  obtain ⟨record, _, same⟩ := List.mem_map.mp member
  exact other record.metric same.symm

theorem gauge_increments (counters : Counters) (turns : List Counter) :
    (turns.foldl Counters.increment counters).bufferedKeys = counters.bufferedKeys := by
  induction turns generalizing counters with
  | nil => rfl
  | cons counter turns ih => exact ih (counters.increment counter)

theorem count_recordsFlushed (records : List NewUsage) (metric : Metric) :
    (records.map fun record => Counter.recordsFlushed record.metric).count (.recordsFlushed metric) =
      records.countP fun record => record.metric = metric := by
  rw [List.count, List.countP_map]
  apply List.countP_congr
  intro record _
  simp

theorem Tally.endFlush_up (tally : Tally service tracked refused) (trigger : Trigger)
    (records : List NewUsage) (up : service.store.isDown .insertUsage = false) :
    Tally (service.endFlush trigger records).2 tracked refused := by
  rcases service.endFlush_cases trigger records with ⟨_, _, slot, store, _⟩ | ⟨down, _⟩
  case inr => simp [up] at down
  have counters : (service.endFlush trigger records).2.counters =
      ((records.map fun record => Counter.recordsFlushed record.metric).foldl Counters.increment
        service.counters).increment (.flushes trigger true) := by
    simp only [Service.endFlush, Store.insertUsage, Store.guarded_ok up]
    rw [Service.count, counters_foldl_count]
  have counted : ∀ {counter : Counter}, counter ≠ .flushes trigger true →
      (service.endFlush trigger records).2.counters.value counter =
        ((records.map fun record => Counter.recordsFlushed record.metric).foldl Counters.increment
          service.counters).value counter := fun other => by
    rw [counters, Counters.increment, Counters.value_add_other _ (Ne.symm other)]
  refine ⟨fun metric => ?_, fun metric => ?_, ?_, ?_, ?_⟩
  · rw [counted (by simp), value_countRows (by simp), tally.tracked]
  · rw [counted (by simp), store, Store.rowCount_appendUsage, zip_drawMany, ← count_recordsFlushed]
    exact Counters.shows_increments (tally.rows metric) _
  · rw [counters, store]
    apply Counters.shows_flushes
    rw [Counters.flushes_congr fun trigger => value_countRows (by simp) _ _]
    exact tally.batches
  · rw [Counters.flushes_congr fun other => (counted (by simp)).trans (value_countRows (by simp) _ _)]
    exact tally.refused
  · rw [counters, slot]
    exact (gauge_increments _ _).trans tally.gauge

theorem Tally.endFlush_down (tally : Tally service tracked refused) (trigger : Trigger)
    (records : List NewUsage) (down : service.store.isDown .insertUsage = true) :
    Tally (service.endFlush trigger records).2 tracked (refused + 1) := by
  rcases service.endFlush_cases trigger records with ⟨up, _⟩ | ⟨_, _, slot, store, _⟩
  case inl => simp [down] at up
  have counters : (service.endFlush trigger records).2.counters =
      { service.counters.increment (.flushes trigger false) with
        bufferedKeys := service.tracker.requeue.live.length } := by
    simp only [Service.endFlush, Store.insertUsage, Store.guarded_error down]
    rfl
  have values : ∀ counter, (service.endFlush trigger records).2.counters.value counter =
      (service.counters.increment (.flushes trigger false)).value counter := by
    rw [counters]
    exact fun counter => rfl
  have kept : ∀ {counter : Counter}, counter ≠ .flushes trigger false →
      (service.endFlush trigger records).2.counters.value counter = service.counters.value counter :=
    fun other => by rw [values, Counters.increment, Counters.value_add_other _ (Ne.symm other)]
  refine ⟨fun metric => ?_, fun metric => ?_, ?_, ?_, ?_⟩
  · rw [kept (by simp), tally.tracked]
  · rw [kept (by simp), store]
    exact tally.rows metric
  · rw [Counters.flushes_congr fun other => kept (by simp), store]
    exact tally.batches
  · rw [Counters.flushes_congr fun other => values _]
    exact Counters.shows_flushes tally.refused trigger
  · rw [counters, slot]

theorem Tally.endFlush (tally : Tally service tracked refused) (trigger : Trigger)
    (records : List NewUsage) :
    Tally (service.endFlush trigger records).2 tracked (refused +
      refusal service.store ((service.ids.drawMany records.length).1.zip records) service.clock) := by
  cases down : service.store.isDown .insertUsage with
  | false =>
      have accepted : refusal service.store
          ((service.ids.drawMany records.length).1.zip records) service.clock = 0 := by
        simp [refusal, Store.insertUsage, Store.guarded_ok down, Except.isOk, Except.toBool]
      rw [accepted]
      exact tally.endFlush_up trigger records down
  | true =>
      have refused : refusal service.store
          ((service.ids.drawMany records.length).1.zip records) service.clock = 1 := by
        simp [refusal, Store.insertUsage, Store.guarded_error down, Except.isOk, Except.toBool]
      rw [refused]
      exact tally.endFlush_down trigger records down

def refusedBy (service : Service) : Flush → Nat
  | .writing records =>
    refusal service.store ((service.ids.drawMany records.length).1.zip records) service.clock
  | _ => 0

theorem Tally.stepFlush (tally : Tally service tracked refused) (trigger : Trigger) (stage : Flush) :
    Tally (service.stepFlush trigger stage).2 tracked (refused + service.refusedBy stage) := by
  cases stage with
  | queued =>
      unfold Service.stepFlush
      dsimp only
      split
      · exact tally.beginFlush
      · exact tally.beginFlush
  | stamping now records rest =>
      cases rest with
      | nil => exact tally
      | cons entry rest => exact tally
  | writing records => exact tally.endFlush trigger records

theorem uncounted_perform (service : Service) (action : Action)
    (books : ∀ key quantity, action ≠ .track key quantity) (flushes : action ≠ .flush)
    (elsewhere : ∀ counter, action = .count counter → counter.isOfTracker = false) :
    Uncounted service (service.perform action).2 := by
  have keeps := keepsUsage_perform service action books flushes
  have counts : (∀ counter : Counter, counter.isOfTracker = true →
      (service.perform action).2.counters.value counter = service.counters.value counter) ∧
      (service.perform action).2.counters.bufferedKeys = service.counters.bufferedKeys := by
    cases action with
    | track key quantity => exact absurd rfl (books key quantity)
    | flush => exact absurd rfl flushes
    | ask call =>
        simp only [perform, ask]
        split
        · refine ⟨fun counter own => Counters.value_add_other _ ?_ 1, rfl⟩
          rintro rfl
          cases own
        · exact ⟨fun _ _ => rfl, rfl⟩
    | count other =>
        refine ⟨fun counter own => Counters.value_add_other _ ?_ 1, rfl⟩
        rintro rfl
        rw [elsewhere other rfl] at own
        cases own
    | _ => exact ⟨fun _ _ => rfl, rfl⟩
  exact ⟨counts.1, counts.2, congrArg Tracker.live keeps.tracker, keeps.store.contents,
    keeps.store.batches⟩

end Service

namespace Pipeline

variable {pipeline : Pipeline}

def tracks (metric : Metric) (pipeline : Pipeline) : Move → Nat
  | .event (.track key quantity) | .act (.track key quantity) =>
    if key.metric = metric ∧ (pipeline.service.track key quantity).1.isOk
    then (Quantity.ofCount quantity).toNat else 0
  | _ => 0

def refuses (pipeline : Pipeline) : Move → Nat
  | .event .work => pipeline.service.refusedBy pipeline.stage
  | _ => 0

/-- The sum of what the moves of a run come to. -/
def along (amount : Pipeline → Move → Nat) (pipeline : Pipeline) : List Move → Nat
  | [] => 0
  | move :: moves => amount pipeline move + along amount (pipeline.after move) moves

/-- Nobody but the tracker counts with its counters. -/
def CountsElsewhere (moves : List Move) : Prop :=
  ∀ counter, .act (.count counter) ∈ moves → counter.isOfTracker = false

theorem Reorders.uncounted {after : Pipeline} (reorders : Reorders pipeline after) :
    pipeline.service.Uncounted after.service := by
  obtain ⟨wakeup, closed, service⟩ := reorders.service
  rw [service]
  exact ⟨fun _ _ => rfl, rfl, rfl, rfl, rfl⟩

theorem tracks_act {action : Action} (books : ∀ key quantity, action ≠ .track key quantity)
    (metric : Metric) : tracks metric pipeline (.act action) = 0 := by
  unfold tracks
  split
  · rename_i same
    cases same
  · rename_i same
    exact absurd (Move.act.inj same) (books _ _)
  · rfl

variable {tracked : Metric → Nat} {refused : Nat}

theorem tally_event (tally : pipeline.service.Tally tracked refused) (event : Event) :
    (pipeline.after (.event event)).service.Tally
      (fun metric => tracked metric + tracks metric pipeline (.event event))
      (refused + pipeline.refuses (.event event)) := by
  have quiet : (∀ key quantity, event ≠ .track key quantity) → event ≠ .work →
      (pipeline.after (.event event)).service.Tally tracked refused := by
    intro noTrack noWork
    rcases pipeline.perform_cases event with ⟨key, quantity, same, _⟩ | same | ⟨_, reorders⟩
    · exact absurd same (noTrack key quantity)
    · exact absurd same noWork
    · exact tally.uncounted reorders.uncounted
  cases event with
  | track key quantity => exact tally.track key quantity
  | work =>
      change (pipeline.perform .work).2.service.Tally _
        (refused + pipeline.service.refusedBy pipeline.stage)
      rcases pipeline.work_cases with ⟨jobs, idle⟩ | ⟨job, rest, jobs, service, _⟩
      · rw [idle, stage_of_nil jobs]
        exact tally
      · rw [service, stage_of_cons jobs]
        exact tally.stepFlush job.trigger job.stage
  | _ => exact quiet (by simp) (by simp)

theorem tally_after (tally : pipeline.service.Tally tracked refused) (move : Move)
    (elsewhere : ∀ counter, move = .act (.count counter) → counter.isOfTracker = false) :
    (pipeline.after move).service.Tally (fun metric => tracked metric + tracks metric pipeline move)
      (refused + pipeline.refuses move) := by
  cases move with
  | event event => exact tally_event tally event
  | act action =>
      rcases pipeline.after_act_cases action with ⟨key, quantity, rfl⟩ | rfl | ⟨noTrack, result, _⟩
      · exact tally.track key quantity
      · exact tally
      · by_cases flushes : action = .flush
        · subst flushes
          exact tally
        · rw [result]
          simp only [tracks_act noTrack]
          exact tally.uncounted (pipeline.service.uncounted_perform action noTrack flushes
            fun counter same => elsewhere counter (congrArg Move.act same))
  | drop flusher => exact tally.uncounted (reorders_abandon pipeline flusher).uncounted
  | put row => exact tally.uncounted ⟨fun _ _ => rfl, rfl, rfl, rfl, rfl⟩
  | switch method down => exact tally.uncounted ⟨fun _ _ => rfl, rfl, rfl, rfl, rfl⟩
  | clock now => exact tally.uncounted ⟨fun _ _ => rfl, rfl, rfl, rfl, rfl⟩
  | backend backend => exact tally.uncounted ⟨fun _ _ => rfl, rfl, rfl, rfl, rfl⟩

theorem tally_afterAll (tally : pipeline.service.Tally tracked refused) (moves : List Move)
    (elsewhere : CountsElsewhere moves) : (pipeline.afterAll moves).service.Tally
      (fun metric => tracked metric + along (tracks metric) pipeline moves)
      (refused + along refuses pipeline moves) := by
  induction moves generalizing pipeline tracked refused with
  | nil => exact tally
  | cons move moves ih =>
      have moved := tally_after tally move fun counter same => elsewhere counter (same ▸ List.mem_cons_self)
      have ended := ih moved fun counter member => elsewhere counter (List.mem_cons_of_mem _ member)
      rw [afterAll_cons]
      simpa only [along, ← Nat.add_assoc] using ended

/-- In the state after any run that starts with nothing counted, the counters of the tracker agree with
what has been accepted, with the rows and batches in the store, with the writes that failed and with the
live buffer. -/
theorem counters_agree (start : Pipeline) (fresh : start.Fresh)
    (counters : start.service.counters = {}) (batches : start.service.store.batches = 0)
    (moves : List Move) (elsewhere : CountsElsewhere moves) :
    (start.afterAll moves).service.Tally (fun metric => along (tracks metric) start moves)
      (along refuses start moves) := by
  have zero : ∀ counter, start.service.counters.value counter = 0 := by
    rw [counters]
    exact fun counter => rfl
  have none : ∀ succeeded, start.service.counters.flushes succeeded = 0 := by
    simp [Counters.flushes, zero]
  have begun : start.service.Tally (fun _ => 0) 0 := by
    refine ⟨fun metric => zero _, fun metric => ?_, ?_, ?_, ?_⟩
    · rw [zero, Store.rowCount, fresh.usage]
      exact .refl 0
    · rw [none, batches]
      exact .refl 0
    · rw [none]
      exact .refl 0
    · rw [counters, fresh.live]
      rfl
  simpa only [Nat.zero_add] using tally_afterAll begun moves elsewhere

def threeFlushes (key other : UsageKey) : List Move :=
  [.event (.track key 5), .event (.track other 18446744073709551615), .event (.flush 0), .event .work,
    .event .work, .event .work, .event .work, .event (.track key 2), .drop (.caller 0),
    .switch .insertUsage true, .event .tick, .event .work, .event .work, .event .work, .event .work,
    .event .work, .event (.track key 1), .switch .insertUsage false, .event .tick, .event .work,
    .event .work, .event .work, .event .work, .event .work, .event .close, .event (.track key 7)]

theorem counters_agree_threeFlushes :
    ∃ (start : Pipeline) (key other : UsageKey), start.Fresh ∧ start.service.counters = {} ∧
      start.service.store.batches = 0 ∧ CountsElsewhere (threeFlushes key other) ∧
      (start.afterAll (threeFlushes key other)).service.store.batches = 1 ∧
      along refuses start (threeFlushes key other) = 1 ∧
      along (tracks .testRuns) start (threeFlushes key other) = 8 ∧
      along (tracks .aiTokens) start (threeFlushes key other) = 9223372036854775807 ∧
      (start.afterAll (threeFlushes key other)).service.Tally
        (fun metric => along (tracks metric) start (threeFlushes key other))
        (along refuses start (threeFlushes key other)) := by
  have fresh : Fresh { service := { clock := ⟨1700000000, 0⟩ } } := ⟨rfl, rfl, rfl, rfl⟩
  have elsewhere : ∀ key other, CountsElsewhere (threeFlushes key other) := by
    intro key other counter member
    simp [threeFlushes] at member
  exact ⟨_, ⟨⟨1⟩, .testRuns⟩, ⟨⟨2⟩, .aiTokens⟩, fresh, rfl, rfl, elsewhere _ _, by decide +kernel,
    by decide +kernel, by decide +kernel, by decide +kernel,
    counters_agree _ fresh rfl rfl _ (elsewhere _ _)⟩

end Pipeline

end UsageBilling
