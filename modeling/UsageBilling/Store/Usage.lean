import UsageBilling.Store.Basic
/-!
Usage rows in the store. Rows are only ever appended; the only change made to a row is that it is
marked as reported, once.
-/
namespace UsageBilling

structure GroupKey where
  tenant : Uuid
  metric : String
  period : Period
  deriving DecidableEq, Repr

namespace GroupKey

/-- By tenant, then metric, then start and end of the period. -/
def Before (a b : GroupKey) : Prop :=
  a.tenant.bits < b.tenant.bits ∨ a.tenant = b.tenant ∧
    (a.metric < b.metric ∨ a.metric = b.metric ∧
      (a.period.start < b.period.start ∨ a.period.start = b.period.start ∧
        a.period.finish < b.period.finish))

instance (a b : GroupKey) : Decidable (Before a b) := inferInstanceAs (Decidable (_ ∨ _))

end GroupKey

def UsageRow.groupKey (row : UsageRow) : GroupKey := ⟨row.tenant, row.metric, row.period⟩

namespace UsageGroup

def key (group : UsageGroup) : GroupKey := ⟨group.tenant, group.metric, group.period⟩

def push (group : UsageGroup) (row : UsageRow) : UsageGroup :=
  { group with
    quantity := Quantity.add group.quantity row.quantity
    rowIds := group.rowIds ++ [row.id] }

def ofRow (row : UsageRow) : UsageGroup :=
  push ⟨row.tenant, row.metric, row.period, 0, []⟩ row

/-- Puts a row into its group. Groups stand in the order of their keys. -/
def insertRow (row : UsageRow) : List UsageGroup → List UsageGroup
  | [] => [ofRow row]
  | group :: groups =>
    if group.key = row.groupKey then group.push row :: groups
    else if row.groupKey.Before group.key then ofRow row :: group :: groups
    else group :: insertRow row groups

def ofRows (rows : List UsageRow) : List UsageGroup :=
  rows.foldl (fun groups row => insertRow row groups) []

end UsageGroup

namespace Store

/-- Appends one row for each entry of `usages`, under the ids given with them. -/
def appendUsage (store : Store) (usages : List (Uuid × NewUsage)) (now : Instant) : Store :=
  { store with
    usage := store.usage ++ usages.map fun (id, usage) => .fresh id usage now
    batches := store.batches + 1 }

def insertUsage (store : Store) (usages : List (Uuid × NewUsage)) (now : Instant) :
    Except Fault Nat × Store :=
  store.guarded .insertUsage (.ok usages.length, store.appendUsage usages now)

def quantitiesAt (store : Store) (tenant : Uuid) (metric : Metric) (moment : Instant) : List Int :=
  (store.usage.filter fun row =>
    row.tenant = tenant && row.metric = metric.name && row.period.contains moment).map (·.quantity)

def periodUsage (store : Store) (tenant : Uuid) (metric : Metric) (moment : Instant) :
    Except Fault Int :=
  (store.guarded .periodUsage (.ok (Quantity.sum (store.quantitiesAt tenant metric moment)), store)).1

def unreportedGroups (store : Store) : List UsageGroup :=
  UsageGroup.ofRows (store.usage.filter fun row => !row.reported)

def unreportedUsage (store : Store) : Except Fault (List UsageGroup) :=
  (store.guarded .unreportedUsage (.ok store.unreportedGroups, store)).1

def isMarkedBy (ids : List Uuid) (row : UsageRow) : Bool := !row.reported && ids.contains row.id

def markRows (store : Store) (ids : List Uuid) (usageId : Option String) (now : Instant) : Store :=
  { store with
    usage := store.usage.map fun row =>
      if isMarkedBy ids row then row.markReported usageId now else row }

/-- Marks the rows with `ids` that are not reported yet, and counts them. -/
def markReported (store : Store) (ids : List Uuid) (usageId : Option String) (now : Instant) :
    Except Fault Nat × Store :=
  store.guarded .markReported
    (.ok (store.usage.countP (isMarkedBy ids)), store.markRows ids usageId now)

end Store

end UsageBilling
