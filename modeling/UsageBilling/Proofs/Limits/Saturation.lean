import UsageBilling.Proofs.Limits.Counting
import UsageBilling.Proofs.Store.Grouping
import UsageBilling.Proofs.Subscription.Identity
import UsageBilling.Proofs.Tracker.Backlog
/-!
Saturating sums. Every sum that is told is the exact one of the amounts it adds up, cut off at the
greatest amount, in whatever order they are visited and however the tracks were split over flushes.
-/
namespace UsageBilling

open Quantity

namespace Quantity

/-- The amounts add up to this in any order: to their exact sum, cut off at the greatest amount. -/
structure Sums (amounts : List Int) (total : Int) : Prop where
  exact : total = min amounts.sum greatest
  orders : ∀ visited : List Int, visited.Perm amounts → sum visited = total

theorem sums_of_eq_min {amounts : List Int} {total : Int} (nonneg : ∀ amount ∈ amounts, 0 ≤ amount)
    (exact : total = min amounts.sum greatest) : Sums amounts total := by
  refine ⟨exact, fun visited same => ?_⟩
  rw [exact, ← same.sum_eq]
  exact sum_of_nonneg visited fun amount member => nonneg amount (same.subset member)

theorem sums_of_nonneg {amounts : List Int} (nonneg : ∀ amount ∈ amounts, 0 ≤ amount) :
    Sums amounts (sum amounts) :=
  sums_of_eq_min nonneg (sum_of_nonneg amounts nonneg)

end Quantity

/-- A check tells the usage that it has read, whatever it is answered afterwards. -/
theorem obeys_afterUsage (catalog : Catalog) (tenant : Uuid) (metric : Metric) (usage : Int)
    (trace : List Performed) : Program.Obeys (replyRules fun _ => True) (Attempt.outcome (do
        let (exceeded, limit) ← Lifecycle.checkUsageLimit catalog tenant metric.name usage
        if exceeded then perform (.count (.limitExceeded metric))
        return (⟨metric.name, exceeded, limit, usage⟩ : LimitCheck))) trace
      fun reply _ => ∀ check, reply = .ok check → check.currentUsage = usage := by
  apply Lifecycle.obeys_after
  rintro ⟨exceeded, limit⟩ known
  cases exceeded with
  | true => exact Lifecycle.obeys_after fun _ _ => Attempt.obeys_pure rfl
  | false => exact Attempt.obeys_pure rfl

namespace Pipeline

variable {pipeline : Pipeline}

/-- The amounts that a limit check adds up: what is pending at its first read, and the rows that it finds
at its last one for the time it has read in between. -/
def checkedAmounts (pipeline : Pipeline) (key : UsageKey) (first second third : List Move) : List Int :=
  let tracker := (pipeline.afterAll first).service.tracker
  tracker.live.get key :: tracker.inflight.get key ::
    (pipeline.afterAll (first ++ (second ++ third))).service.store.quantitiesAt key.tenant key.metric
      (pipeline.afterAll (first ++ second)).service.clock

/-- All amounts are in range, and all sums that are told are exact up to the greatest amount. -/
structure Tallied (pipeline : Pipeline) : Prop where
  buffered : ∀ entry ∈ pipeline.service.tracker.live ++ pipeline.service.tracker.inflight,
    IsAmount entry.2
  rows : ∀ row ∈ pipeline.service.store.usage, IsAmount row.quantity
  usage : pipeline.service.store.isDown .periodUsage = false → ∀ tenant metric moment, ∃ total,
    pipeline.service.store.periodUsage tenant metric moment = .ok total ∧
      Sums (pipeline.service.store.quantitiesAt tenant metric moment) total
  /-- What a flush reports that succeeds with its next step. -/
  reported : ∀ report, pipeline.outcome? = some (.ok report) → ∃ rows,
    (pipeline.after (.event .work)).service.store.usage = pipeline.service.store.usage ++ rows ∧
      report.records = rows.length ∧ Sums (rows.map (·.quantity)) report.quantity
  timedOut : ∀ event limitSecs entries quantity,
    (pipeline.perform event).1 = some (.closed (.error (.timedOut limitSecs entries quantity))) →
      Sums (pipeline.service.tracker.live.amounts ++ pipeline.service.tracker.inflight.amounts) quantity
  groups : pipeline.service.store.isDown .unreportedUsage = false → ∃ groups,
    pipeline.service.store.unreportedUsage = .ok groups ∧ ∀ group ∈ groups,
      Sums ((pipeline.service.store.usage.filter fun row =>
        !row.reported && row.groupKey = group.key).map (·.quantity)) group.quantity
  /-- Whatever happens while a limit check runs. -/
  checked : ∀ catalog key first second third rest check,
    ((LimitCheck.check catalog key.tenant key.metric.name).outcome.amid
      (first :: second :: third :: rest) pipeline).1 = .ok check →
        Sums (pipeline.checkedAmounts key first second third) check.currentUsage
  answers : pipeline.service.store.Up → ∀ catalog (key : UsageKey) first second third rest,
    (∀ moves ∈ first :: second :: third :: rest, ∀ move ∈ moves, move.Calm) →
      ∃ check, ((LimitCheck.check catalog key.tenant key.metric.name).outcome.amid
        (first :: second :: third :: rest) pipeline).1 = .ok check

theorem Balanced.quantities_nonneg (balanced : pipeline.Balanced) {rows : List UsageRow}
    (stored : ∀ row ∈ rows, row ∈ pipeline.service.store.usage) :
    ∀ amount ∈ rows.map (·.quantity), 0 ≤ amount := by
  intro amount member
  obtain ⟨row, found, rfl⟩ := List.mem_map.mp member
  exact balanced.service.quantity_nonneg (stored row found)

theorem Balanced.usage (balanced : pipeline.Balanced)
    (works : pipeline.service.store.isDown .periodUsage = false) (tenant : Uuid) (metric : Metric)
    (moment : Instant) : ∃ total,
    pipeline.service.store.periodUsage tenant metric moment = .ok total ∧
      Sums (pipeline.service.store.quantitiesAt tenant metric moment) total := by
  refine ⟨_, ?_, sums_of_nonneg (balanced.service.quantitiesAt_nonneg ⟨tenant, metric⟩ moment)⟩
  rw [Store.periodUsage_eq, works]
  rfl

theorem quantities_drawMany (ids : IdSource) (records : List NewUsage) (now : Instant) :
    (((ids.drawMany records.length).1.zip records).map fun entry =>
      UsageRow.fresh entry.1 entry.2 now).map (·.quantity) = records.map (·.quantity) := by
  have pairs := congrArg (List.map Prod.snd) (rows_drawMany ids records now).2
  simp only [List.map_map] at pairs ⊢
  exact pairs

theorem Balanced.reported (balanced : pipeline.Balanced) {report : FlushReport}
    (ends : pipeline.outcome? = some (.ok report)) : ∃ rows,
    (pipeline.after (.event .work)).service.store.usage = pipeline.service.store.usage ++ rows ∧
      report.records = rows.length ∧ Sums (rows.map (·.quantity)) report.quantity := by
  by_cases queued : pipeline.stage = .queued
  · have waiting : pipeline.jobs ≠ [] := by
      intro none
      simp [outcome?, none] at ends
    have unflushed := unflushed_of_outcome balanced.buffered queued ends
    obtain ⟨nothing, store, _⟩ := flush_of_empty queued waiting unflushed
    obtain rfl : report = ⟨0, 0⟩ := by simpa [ends] using nothing
    exact ⟨[], by rw [store, List.append_nil], rfl, sums_of_nonneg (by simp)⟩
  · obtain ⟨trigger, records, _, result, after⟩ := ended_cases queued ends
    rcases pipeline.service.endFlush_cases trigger records with ⟨_, success, _, store, _⟩ |
      ⟨_, failure, _⟩
    · obtain rfl : report = Service.reportOf records := Except.ok.inj (result.symm.trans success)
      have written : (pipeline.after (.event .work)).service.store.usage =
          pipeline.service.store.usage ++
            ((pipeline.service.ids.drawMany records.length).1.zip records).map fun entry =>
              UsageRow.fresh entry.1 entry.2 pipeline.service.clock := by
        rw [after, store]
        rfl
      have quantities := quantities_drawMany pipeline.service.ids records pipeline.service.clock
      refine ⟨_, written, ?_, ?_⟩
      · simpa [Service.reportOf] using (congrArg List.length quantities).symm
      · have nonneg := (after_balanced balanced (.event .work)).1.quantities_nonneg
          fun row member => written ▸ List.mem_append_right _ member
        have total : (Service.reportOf records).quantity = sum (records.map (·.quantity)) := rfl
        rw [total, ← quantities]
        exact sums_of_nonneg nonneg
    · exact absurd (result.symm.trans failure) (by simp)

theorem Balanced.groups (balanced : pipeline.Balanced)
    (works : pipeline.service.store.isDown .unreportedUsage = false) : ∃ groups,
    pipeline.service.store.unreportedUsage = .ok groups ∧ ∀ group ∈ groups,
      Sums ((pipeline.service.store.usage.filter fun row =>
        !row.reported && row.groupKey = group.key).map (·.quantity)) group.quantity := by
  refine ⟨pipeline.service.store.unreportedGroups, Store.unreportedUsage_ok works, ?_⟩
  intro group member
  rw [Store.quantity_of_mem member]
  exact sums_of_nonneg (balanced.quantities_nonneg fun other found => List.mem_of_mem_filter found)

theorem Balanced.timedOut (balanced : pipeline.Balanced) {event : Pipeline.Event}
    {limitSecs entries : Nat} {quantity : Int} (told : (pipeline.perform event).1 =
      some (.closed (.error (.timedOut limitSecs entries quantity)))) :
    Sums (pipeline.service.tracker.live.amounts ++ pipeline.service.tracker.inflight.amounts)
      quantity := by
  obtain ⟨_, _, _, _, rfl⟩ := numbers_of_timedOut told
  exact sums_of_nonneg balanced.buffered.service.tracker.nonneg

section Checks

variable {key : UsageKey} {first second third : List Move} {rest : List (List Move)}

theorem readUsage_sums (balanced : pipeline.Balanced) (key : UsageKey)
    (first second third : List Move) : Sums (pipeline.checkedAmounts key first second third)
      (readUsage pipeline key first second third) := by
  have early := (afterAll_balanced balanced first).1
  have late := (afterAll_balanced balanced (first ++ (second ++ third))).1
  have live := (Buffer.get_bounds early.service.live key).1
  have inflight := (Buffer.get_bounds early.service.inflight key).1
  have rows := late.service.quantitiesAt_nonneg key
    (pipeline.afterAll (first ++ second)).service.clock
  -- No amount is negative, so it makes no difference where the sum is cut off.
  refine sums_of_eq_min ?_ ?_
  · intro amount member
    rcases List.mem_cons.mp member with rfl | member
    · exact live
    · rcases List.mem_cons.mp member with rfl | member
      · exact inflight
      · exact rows amount member
  · rw [readUsage, sum_of_nonneg _ rows, Tracker.pending_eq_min early.buffered.service.tracker,
      add_cutOff (List.sum_nonneg rows) (by omega), checkedAmounts, List.sum_cons, List.sum_cons]
    omega

theorem check_reads {catalog : Catalog} {check : LimitCheck}
    (ends : ((LimitCheck.check catalog key.tenant key.metric.name).outcome.amid
      (first :: second :: third :: rest) pipeline).1 = .ok check) :
    check.currentUsage = readUsage pipeline key first second third := by
  rw [check_eq] at ends
  obtain ⟨current, reads, answers⟩ := Attempt.ok_of_amid_bind ends
  have read : current = readUsage pipeline key first second third := by
    rw [amid_usage] at reads
    dsimp only at reads
    split at reads
    · cases reads
    · exact (Except.ok.inj reads).symm
  subst read
  obtain ⟨_, same⟩ := (obeys_afterUsage catalog key.tenant key.metric _ []).amid _ _
  exact same check answers

end Checks

theorem Balanced.tallied (balanced : pipeline.Balanced) : pipeline.Tallied where
  buffered := by
    intro entry member
    rcases List.mem_append.mp member with live | inflight
    · exact balanced.service.live.amounts entry live
    · exact balanced.service.inflight.amounts entry inflight
  rows row member := balanced.service.stored row.content (List.mem_map_of_mem member)
  usage := balanced.usage
  reported _ := balanced.reported
  timedOut _ _ _ _ := balanced.timedOut
  groups := balanced.groups
  checked catalog key first second third rest check ends :=
    check_reads ends ▸ readUsage_sums balanced key first second third
  answers up catalog key first second third rest calm := by
    obtain ⟨limit, answer, _⟩ := amid_check catalog key first second third rest up calm
    exact ⟨_, answer⟩

theorem clock_after (pipeline : Pipeline) {move : Move} (still : ∀ now, move ≠ .clock now) :
    (pipeline.after move).service.clock = pipeline.service.clock := by
  by_cases calm : move.Calm
  · exact (pipeline.steady_after calm).clock
  · cases move with
    | clock now => exact absurd rfl (still now)
    | switch method down => rfl
    | _ => exact absurd trivial calm

theorem Present.afterStill (present : pipeline.Present) {moves : List Move}
    (still : ∀ now, .clock now ∉ moves) : (pipeline.afterAll moves).Present :=
  afterAll_induction present moves fun pipeline _ member holds =>
    holds.after (pipeline.clock_after fun now same => still now (same ▸ member))

/-- What is stored for the present and what is pending are all tracks of the key together. -/
theorem Present.add_pending (present : pipeline.Present) {key : UsageKey} {tracks : Backlog}
    (follows : pipeline.Follows key tracks) {total : Int}
    (read : pipeline.service.store.periodUsage key.tenant key.metric pipeline.service.clock = .ok total) :
    add total (pipeline.service.tracker.pending key) = min tracks.all.sum greatest := by
  obtain ⟨waitingNonneg, takenNonneg, storedNonneg⟩ := follows.nonneg
  have rows : total = min tracks.stored.sum greatest := by
    rw [← follows.stored, ← present.sum_quantitiesAt key]
    rw [Store.periodUsage_eq] at read
    split at read
    · cases read
    · exact (Except.ok.inj read).symm
  have unstored : tracks.unstored.sum = tracks.taken.sum + tracks.waiting.sum := List.sum_append
  calc
    _ = add (min tracks.stored.sum greatest) (min tracks.unstored.sum greatest) := by
      rw [rows, follows.pending]
    _ = min (tracks.stored.sum + tracks.unstored.sum) greatest :=
      add_cutOff storedNonneg (by omega)
    _ = min tracks.all.sum greatest := by rw [Backlog.all, List.sum_append]

/-- Whatever happens to a tracker that starts with an empty store, every amount is in range, and every
sum that is told is the exact one of the amounts it adds up, cut off at the greatest amount. What is
pending under a key are its tracks that no batch has stored, however they were split over flushes. While
the clock stands still, what is stored for the current period and what is pending add up to all that was
accepted. -/
theorem sums_saturate (start : Pipeline) (fresh : start.Fresh) (moves : List Move) :
    let last := start.afterAll moves
    last.Tallied ∧
    (∀ key, last.Follows key (start.backlog key moves) ∧
      (start.backlog key moves).all = start.bookings key moves) ∧
    (start.service.clock.BeforeLastMonth → (∀ now, .clock now ∉ moves) → ∀ key total,
      last.service.store.periodUsage key.tenant key.metric last.service.clock = .ok total →
        add total (last.service.tracker.pending key) = min (start.bookings key moves).sum greatest) := by
  intro last
  have follows : ∀ key, last.Follows key (start.backlog key moves) := fun key =>
    (fresh.follows key).afterAll fresh.balanced moves
  have all : ∀ key, (start.backlog key moves).all = start.bookings key moves := fun key =>
    start.all_followAll key {} moves
  refine ⟨(fresh.afterAll moves).1.tallied, fun key => ⟨follows key, all key⟩, ?_⟩
  intro before still key total read
  rw [← all]
  exact ((fresh.present before).afterStill still).add_pending (follows key) read

def requeuedAtLimit : List Move :=
  [.event (.track trackedKey 18446744073709551615), .event (.flush 1), .event .work, .event .work,
    .event .work, .switch .insertUsage true, .event .work, .event (.track trackedKey 5),
    .switch .insertUsage false, .event .tick, .event .work, .event .work, .event .work,
    .event (.track trackedKey 7), .event .work]

/-- The row that is stored is cut off below the sum of its two tracks, and so is what all three come to. -/
theorem sums_saturate_requeued :
    let last := launched.afterAll requeuedAtLimit
    launched.Fresh ∧ last.service.tracker.pending trackedKey = 7 ∧
    launched.backlog trackedKey requeuedAtLimit = ⟨[7], [], [greatest, 5]⟩ ∧
    launched.bookings trackedKey requeuedAtLimit = [greatest, 5, 7] ∧
    ∃ total, last.service.store.periodUsage trackedKey.tenant trackedKey.metric
        last.service.clock = .ok total ∧
      add total (last.service.tracker.pending trackedKey) = greatest := by
  dsimp only
  have fresh : launched.Fresh := ⟨rfl, rfl, rfl, rfl⟩
  have bookings : launched.bookings trackedKey requeuedAtLimit = [greatest, 5, 7] := by decide +kernel
  have still : ∀ now, .clock now ∉ requeuedAtLimit := fun now member => by
    simp [requeuedAtLimit] at member
  obtain ⟨tallied, backlogs, together⟩ := sums_saturate launched fresh requeuedAtLimit
  obtain ⟨total, read, _⟩ := tallied.usage (by decide +kernel) trackedKey.tenant trackedKey.metric
    (launched.afterAll requeuedAtLimit).service.clock
  have sum := together (by decide) still trackedKey total read
  rw [bookings] at sum
  exact ⟨fresh, by decide +kernel, by decide +kernel, bookings, total, read, sum⟩

end Pipeline

end UsageBilling
