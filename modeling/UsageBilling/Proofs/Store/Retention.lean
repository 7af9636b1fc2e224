import UsageBilling.Proofs.Store.Contents
/-!
Usage rows are only ever appended, and a reported row is final. A call of the store keeps every row
at its position and leaves what it says alone; the one change a call can make to a row is to mark it
as reported, which happens to a row at most once.
-/
namespace UsageBilling

/-- What a row that was stored as `row` keeps, when it is stored as `later` some time after. -/
structure UsageRow.Retained (row later : UsageRow) : Prop where
  id : later.id = row.id
  tenant : later.tenant = row.tenant
  metric : later.metric = row.metric
  quantity : later.quantity = row.quantity
  period : later.period = row.period
  metadata : later.metadata = row.metadata
  createdAt : later.createdAt = row.createdAt
  /-- A reported row never changes again. -/
  final : row.reported = true → later = row
  /-- A row that is still unreported has not been changed. -/
  pending : later.reported = false → later = row

theorem Store.unreported_of_isMarkedBy {ids : List Uuid} {row : UsageRow}
    (listed : isMarkedBy ids row = true) : row.reported = false := by
  simp only [isMarkedBy, Bool.and_eq_true, Bool.not_eq_true'] at listed
  exact listed.1

namespace UsageRow.Retained

theorem refl (row : UsageRow) : row.Retained row where
  id := rfl
  tenant := rfl
  metric := rfl
  quantity := rfl
  period := rfl
  metadata := rfl
  createdAt := rfl
  final _ := rfl
  pending _ := rfl

theorem trans {first second third : UsageRow} (early : first.Retained second)
    (late : second.Retained third) : first.Retained third where
  id := late.id.trans early.id
  tenant := late.tenant.trans early.tenant
  metric := late.metric.trans early.metric
  quantity := late.quantity.trans early.quantity
  period := late.period.trans early.period
  metadata := late.metadata.trans early.metadata
  createdAt := late.createdAt.trans early.createdAt
  final reported := by
    have kept := early.final reported
    exact (late.final (kept ▸ reported)).trans kept
  pending unreported := by
    have kept := late.pending unreported
    exact kept.trans (early.pending (kept ▸ unreported))

theorem marked {ids : List Uuid} (row : UsageRow) (usageId : Option String) (now : Instant) :
    row.Retained (if Store.isMarkedBy ids row then row.markReported usageId now else row) := by
  by_cases listed : Store.isMarkedBy ids row
  · rw [if_pos listed]
    have unreported := Store.unreported_of_isMarkedBy listed
    exact {
      id := rfl, tenant := rfl, metric := rfl, quantity := rfl, period := rfl, metadata := rfl
      createdAt := rfl
      final := fun reported => absurd reported (by simp [unreported])
      pending := fun still => absurd still (by simp [markReported]) }
  · rw [if_neg listed]
    exact refl row

end UsageRow.Retained

namespace Store

def Retains (before after : Store) : Prop :=
  ∀ (position : Nat) (row : UsageRow), before.usage[position]? = some row →
    ∃ later, after.usage[position]? = some later ∧ row.Retained later

theorem Retains.of_usage {before after : Store} (same : after.usage = before.usage) :
    before.Retains after :=
  fun position row stored => ⟨row, by rw [same, stored], .refl row⟩

theorem Retains.trans {first second third : Store} (early : first.Retains second)
    (late : second.Retains third) : first.Retains third := by
  intro position row stored
  obtain ⟨amid, storedAmid, toAmid⟩ := early position row stored
  obtain ⟨later, storedLater, toLater⟩ := late position amid storedAmid
  exact ⟨later, storedLater, toAmid.trans toLater⟩

theorem retains_appendUsage (store : Store) (usages : List (Uuid × NewUsage)) (now : Instant) :
    store.Retains (store.appendUsage usages now) := by
  intro position row stored
  have inside : position < store.usage.length := (List.getElem?_eq_some_iff.mp stored).1
  exact ⟨row, by simp only [appendUsage, List.getElem?_append_left inside, stored], .refl row⟩

theorem retains_markRows (store : Store) (ids : List Uuid) (usageId : Option String) (now : Instant) :
    store.Retains (store.markRows ids usageId now) := by
  intro position row stored
  refine ⟨if isMarkedBy ids row then row.markReported usageId now else row, ?_,
    .marked row usageId now⟩
  simp only [markRows, List.getElem?_map, stored, Option.map_some]

theorem retains_guarded {α : Type} {store : Store} {method : Method} {run : Except Fault α × Store}
    (retains : store.Retains run.2) : store.Retains (store.guarded method run).2 := by
  unfold guarded
  split
  · exact .of_usage rfl
  · exact retains

theorem guarded_ok_cases {α : Type} {store after : Store} {method : Method} {answer : α}
    {run : Store} {reply : Except Fault α}
    (answered : store.guarded method (.ok answer, run) = (reply, after)) :
    reply = .ok answer ∧ after = run ∨ reply = .error method.outage ∧ after = store := by
  cases down : store.isDown method with
  | true =>
      rw [guarded_error down] at answered
      exact .inr (Prod.mk.injEq .. ▸ answered.symm)
  | false =>
      rw [guarded_ok down] at answered
      exact .inl (Prod.mk.injEq .. ▸ answered.symm)

inductive UsageCall where
  | insertUsage (usages : List (Uuid × NewUsage))
  | markReported (ids : List Uuid) (usageId : Option String)
  | periodUsage (tenant : Uuid) (metric : Metric) (moment : Instant)
  | unreportedUsage

inductive UsageStep where
  | call (call : UsageCall) (now : Instant)
  | switch (method : Method) (down : Bool)

def use (store : Store) : UsageStep → Store
  | .call (.insertUsage usages) now => (store.insertUsage usages now).2
  | .call (.markReported ids usageId) now => (store.markReported ids usageId now).2
  | .call (.periodUsage ..) _ | .call .unreportedUsage _ => store
  | .switch method down => store.setOutage method down

def useAll (store : Store) (steps : List UsageStep) : Store := steps.foldl use store

theorem retains_use (store : Store) (step : UsageStep) : store.Retains (store.use step) := by
  cases step with
  | call call now =>
    cases call with
    | insertUsage usages => exact retains_guarded (retains_appendUsage store usages now)
    | markReported ids usageId => exact retains_guarded (retains_markRows store ids usageId now)
    | periodUsage tenant metric moment => exact .of_usage rfl
    | unreportedUsage => exact .of_usage rfl
  | switch method down => exact .of_usage rfl

theorem retains_useAll (store : Store) (steps : List UsageStep) :
    store.Retains (store.useAll steps) := by
  induction steps generalizing store with
  | nil => exact .of_usage rfl
  | cons step rest ih => exact (retains_use store step).trans (ih (store.use step))

def flipped (before after : Store) : List UsageRow :=
  ((before.usage.zip after.usage).filter fun (row, later) =>
    !row.reported && later.reported).map Prod.fst

theorem flips_marked (ids : List Uuid) (row : UsageRow) (usageId : Option String) (now : Instant) :
    (!row.reported &&
      (if isMarkedBy ids row then row.markReported usageId now else row).reported) =
        isMarkedBy ids row := by
  by_cases listed : isMarkedBy ids row
  · simp [listed, unreported_of_isMarkedBy listed, UsageRow.markReported]
  · simp [listed]

theorem flipped_markRows (store : Store) (ids : List Uuid) (usageId : Option String)
    (now : Instant) :
    store.flipped (store.markRows ids usageId now) = store.usage.filter (isMarkedBy ids) := by
  unfold flipped markRows
  induction store.usage with
  | nil => rfl
  | cons row rows ih =>
      simp only [List.map_cons, List.zip_cons_cons, List.filter_cons, flips_marked]
      split
      · rw [List.map_cons, ih]
      · exact ih

/-- What a call to mark rows comes to: an outage that changes nothing, or exactly the unreported rows
with a listed id reported under `usageId`, and their number. -/
structure Marks (before : Store) (ids : List Uuid) (usageId : Option String) (now : Instant)
    (count : Nat) (after : Store) : Prop where
  usage : after.usage = before.usage.map fun row =>
    if !row.reported && ids.contains row.id then row.markReported usageId now else row
  rows : before.flipped after = before.usage.filter fun row => !row.reported && ids.contains row.id
  count : count = (before.flipped after).length

theorem marks_markRows (store : Store) (ids : List Uuid) (usageId : Option String) (now : Instant) :
    store.Marks ids usageId now (store.usage.countP (isMarkedBy ids))
      (store.markRows ids usageId now) where
  usage := rfl
  rows := flipped_markRows store ids usageId now
  count := by rw [flipped_markRows, List.countP_eq_length_filter]

/-- Usage rows are only ever appended, and a reported row is final. Whatever is asked of the store, a
row that was stored keeps its position and what it says, is unreported only while nothing has been
changed about it, and does not change once it is reported. A call to mark rows flips exactly the
unreported rows with a listed id and tells how many these are; a call that fails changes nothing. -/
theorem usage_rows_retained (store : Store) (early late : List UsageStep) :
    let reached := store.useAll early
    reached.Retains (store.useAll (early ++ late)) ∧
    (∀ ids usageId now count marked, reached.markReported ids usageId now = (.ok count, marked) →
      reached.Marks ids usageId now count marked) ∧
    (∀ ids usageId now fault failed,
      reached.markReported ids usageId now = (.error fault, failed) → failed = reached) ∧
    (∀ usages now count grown, reached.insertUsage usages now = (.ok count, grown) →
      count = usages.length ∧
      grown.usage = reached.usage ++ usages.map fun (id, usage) => .fresh id usage now) ∧
    (∀ usages now fault failed,
      reached.insertUsage usages now = (.error fault, failed) → failed = reached) := by
  intro reached
  refine ⟨?_, ?_, ?_, ?_, ?_⟩
  · have further := retains_useAll reached late
    rwa [show reached.useAll late = store.useAll (early ++ late) from List.foldl_append.symm]
      at further
  · intro ids usageId now count marked answered
    obtain ⟨counted, rfl⟩ | ⟨failed, -⟩ := guarded_ok_cases answered
    · cases counted
      exact marks_markRows reached ids usageId now
    · cases failed
  · intro ids usageId now fault failed answered
    obtain ⟨counted, -⟩ | ⟨-, same⟩ := guarded_ok_cases answered
    · cases counted
    · exact same
  · intro usages now count grown answered
    obtain ⟨counted, rfl⟩ | ⟨failed, -⟩ := guarded_ok_cases answered
    · cases counted
      exact ⟨rfl, rfl⟩
    · cases failed
  · intro usages now fault failed answered
    obtain ⟨counted, -⟩ | ⟨-, same⟩ := guarded_ok_cases answered
    · cases counted
    · exact same

def markedOnce : List UsageStep :=
  let usage : NewUsage := ⟨⟨7⟩, .testRuns, 5, ⟨⟨0, 0⟩, ⟨100, 0⟩⟩⟩
  [.call (.insertUsage [(⟨1⟩, usage), (⟨2⟩, usage)]) ⟨10, 0⟩,
   .call (.markReported [⟨1⟩, ⟨1⟩, ⟨9⟩] (some "mbur_1")) ⟨20, 0⟩,
   .switch .insertUsage true]

/-- Marking both rows afterwards counts and flips the other one only. -/
theorem usage_rows_retained_overlapping :
    let reached := ({} : Store).useAll markedOnce
    let again := reached.markReported [⟨2⟩, ⟨1⟩, ⟨2⟩] (some "mbur_2") ⟨30, 0⟩
    again.1 = .ok 1 ∧ (reached.flipped again.2).map (·.id) = [⟨2⟩] ∧
      again.2.usage.map (·.providerUsageId) = [some "mbur_1", some "mbur_2"] ∧
      (reached.insertUsage [] ⟨40, 0⟩).2 = reached := by
  intro reached again
  obtain ⟨-, marks, -, -, refused⟩ := usage_rows_retained {} markedOnce []
  have marked := marks [⟨2⟩, ⟨1⟩, ⟨2⟩] (some "mbur_2") ⟨30, 0⟩ 1 again.2 rfl
  refine ⟨rfl, ?_, ?_, refused [] ⟨40, 0⟩ (Method.outage .insertUsage) _ rfl⟩
  · rw [marked.rows]
    decide
  · rw [marked.usage]
    decide

end Store

end UsageBilling
