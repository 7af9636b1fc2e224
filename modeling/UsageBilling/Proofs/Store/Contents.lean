import UsageBilling.Proofs.Amounts
import UsageBilling.Store.Subscriptions
import UsageBilling.Store.Usage
/-!
What the usage rows of a store say, whether they have been reported or not, and which methods change
it.
-/
namespace UsageBilling

/-- What a row says about usage, apart from whether it has been reported. -/
def UsageRow.content (row : UsageRow) : Uuid × GroupKey × Int := (row.id, row.groupKey, row.quantity)

namespace Store

def contents (store : Store) : List (Uuid × GroupKey × Int) := store.usage.map UsageRow.content

def waiting (store : Store) : List UsageRow := store.usage.filter fun row => !row.reported

/-- The exact sum of the stored amounts of a key, whatever their periods. -/
def stored (store : Store) (key : UsageKey) : Int :=
  ((store.usage.filter fun row =>
    row.tenant = key.tenant && row.metric = key.metric.name).map (·.quantity)).sum

/-- Usage, batches and switches are those of `before`. -/
structure KeepsUsage (before after : Store) : Prop where
  contents : after.contents = before.contents
  batches : after.batches = before.batches
  outages : after.outages = before.outages

theorem KeepsUsage.refl (store : Store) : KeepsUsage store store := ⟨rfl, rfl, rfl⟩

theorem stored_eq_sum_contents (store : Store) (key : UsageKey) :
    store.stored key = ((store.contents.filter fun content =>
      content.2.1.tenant = key.tenant && content.2.1.metric = key.metric.name).map
        fun content => content.2.2).sum := by
  unfold stored contents
  rw [List.filter_map, List.map_map]
  rfl

theorem quantitiesAt_eq_contents (store : Store) (tenant : Uuid) (metric : Metric) (moment : Instant) :
    store.quantitiesAt tenant metric moment = (store.contents.filter fun content =>
      content.2.1.tenant = tenant && content.2.1.metric = metric.name &&
        content.2.1.period.contains moment).map fun content => content.2.2 := by
  unfold quantitiesAt contents
  rw [List.filter_map, List.map_map]
  rfl

theorem stored_of_contents {before after : Store} (same : after.contents = before.contents)
    (key : UsageKey) : after.stored key = before.stored key := by
  rw [stored_eq_sum_contents, stored_eq_sum_contents, same]

theorem guarded_error {α : Type} {store : Store} {method : Method}
    (down : store.isDown method = true) (run : Except Fault α × Store) :
    store.guarded method run = (.error method.outage, store) := by
  simp [guarded, down]

theorem guarded_ok {α : Type} {store : Store} {method : Method}
    (up : store.isDown method = false) (run : Except Fault α × Store) :
    store.guarded method run = run := by
  simp [guarded, up]

theorem keepsUsage_guarded {α : Type} {store : Store} {method : Method}
    {run : Except Fault α × Store} (keeps : KeepsUsage store run.2) :
    KeepsUsage store (store.guarded method run).2 := by
  unfold guarded
  split
  · exact .refl store
  · exact keeps

theorem usage_guarded {α : Type} {store : Store} {method : Method} {run : Except Fault α × Store}
    (same : run.2.usage = store.usage) : (store.guarded method run).2.usage = store.usage := by
  unfold guarded
  split
  · rfl
  · exact same

theorem usage_update (store : Store) (tenant : Uuid) (change : Subscription → Subscription) :
    (store.update tenant change).2.usage = store.usage := by
  unfold update
  split <;> rfl

theorem keepsUsage_put (store : Store) (row : Subscription) : KeepsUsage store (store.put row) :=
  ⟨rfl, rfl, rfl⟩

theorem keepsUsage_update (store : Store) (tenant : Uuid)
    (change : Subscription → Subscription) : KeepsUsage store (store.update tenant change).2 := by
  unfold update
  split
  · exact .refl store
  · exact keepsUsage_put store _

theorem keepsUsage_insertIfAbsent (store : Store) (row : Subscription) :
    KeepsUsage store (store.insertIfAbsent row).2 := by
  apply keepsUsage_guarded
  split
  · exact .refl store
  · exact keepsUsage_put store row

theorem keepsUsage_syncSnapshot (store : Store) (snapshot : Snapshot) (now : Instant) :
    KeepsUsage store (store.syncSnapshot snapshot now).2 := by
  apply keepsUsage_guarded
  split
  · exact .refl store
  · exact keepsUsage_put store _

theorem contents_markRows (store : Store) (ids : List Uuid) (usageId : Option String) (now : Instant) :
    (store.markRows ids usageId now).contents = store.contents := by
  unfold contents markRows
  rw [List.map_map]
  apply List.map_congr_left
  intro row member
  simp only [Function.comp_apply]
  split
  · rfl
  · rfl

theorem waiting_markRows (store : Store) (ids : List Uuid) (usageId : Option String) (now : Instant) :
    (store.markRows ids usageId now).waiting = store.waiting.filter fun row => row.id ∉ ids := by
  unfold waiting markRows
  induction store.usage with
  | nil => rfl
  | cons row rows ih =>
      by_cases reported : row.reported = true
      · simpa [List.filter_cons, isMarkedBy, reported] using ih
      · by_cases marked : row.id ∈ ids
        · simpa [List.filter_cons, isMarkedBy, reported, marked, UsageRow.markReported] using ih
        · simpa [List.filter_cons, isMarkedBy, reported, marked] using ih

theorem keepsUsage_markReported (store : Store) (ids : List Uuid) (usageId : Option String)
    (now : Instant) : KeepsUsage store (store.markReported ids usageId now).2 :=
  keepsUsage_guarded ⟨contents_markRows store ids usageId now, rfl, rfl⟩

theorem contents_appendUsage (store : Store) (usages : List (Uuid × NewUsage)) (now : Instant) :
    (store.appendUsage usages now).contents = store.contents ++ usages.map fun entry =>
      (entry.1, ⟨entry.2.tenant, entry.2.metric.name, entry.2.period⟩, entry.2.quantity) := by
  unfold contents appendUsage
  rw [List.map_append, List.map_map]
  rfl

end Store

theorem Metric.name_injective {first second : Metric} (same : first.name = second.name) :
    first = second := by
  have found := ofName?_name first
  rw [same, ofName?_name second] at found
  exact (Option.some.inj found).symm

def NewUsage.entry (usage : NewUsage) : UsageKey × Int := (⟨usage.tenant, usage.metric⟩, usage.quantity)

theorem Store.stored_appendUsage (store : Store) (usages : List (Uuid × NewUsage)) (now : Instant)
    (key : UsageKey) :
    (store.appendUsage usages now).stored key = store.stored key +
      (((usages.map fun entry => entry.2.entry).filter fun entry => entry.1 = key).map
        Prod.snd).sum := by
  rw [stored_eq_sum_contents, stored_eq_sum_contents, contents_appendUsage, List.filter_append,
    List.map_append, List.sum_append]
  congr 2
  rw [List.filter_map, List.filter_map, List.map_map, List.map_map]
  have sameKey : ∀ usage : NewUsage,
      (decide (usage.tenant = key.tenant) && decide (usage.metric.name = key.metric.name)) =
        decide (usage.entry.1 = key) := by
    intro usage
    obtain ⟨tenant, metric⟩ := key
    rw [Bool.eq_iff_iff]
    simp only [NewUsage.entry, Bool.and_eq_true, decide_eq_true_eq, UsageKey.mk.injEq]
    exact and_congr_right fun _ => ⟨Metric.name_injective, congrArg Metric.name⟩
  congr 1
  apply List.filter_congr
  intro entry member
  exact sameKey entry.2

end UsageBilling
