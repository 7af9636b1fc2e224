import UsageBilling.Proofs.Reporting.Passes
/-!
What one pass comes to. Each group that was read is billed once, retired, skipped or has failed; its
rows are marked exactly if it was billed or retired, and no other row is touched.
-/
namespace UsageBilling

namespace Reporting

def usageCall? : Performed → Option (Provider.UsageReport × Except Provider.Error Provider.UsageRecord)
  | ⟨.ask (.createUsageRecord report), answer⟩ => some (report, answer)
  | _ => none

structure Idle (performed : Performed) : Prop where
  calls : usageCall? performed = none
  marks : ∀ id, performed.marks? id = none
  quiet : performed.Quiet []

namespace Account

def usageCalls (account : Account) :
    List (Provider.UsageReport × Except Provider.Error Provider.UsageRecord) :=
  account.trace.filterMap usageCall?

/-- What the outcome says about the requests that were made for the group. A group that was billed and
failed all the same is one whose rows could not be marked. -/
def Bills (account : Account) (usage : List UsageRow) : Prop :=
  match account.outcome with
  | .reported => ∃ report record, account.usageCalls = [(report, .ok record)] ∧
    account.replies.record = .ok record ∧ report.action = .increment ∧
    report.quantity = Quantity.sum ((usage.filter fun row =>
      !row.reported && row.groupKey = account.group.key).map (·.quantity))
  | .retired | .skipped => account.usageCalls = []
  | .failed => ∀ report record, (report, .ok record) ∈ account.usageCalls →
    account.replies.marked.isOk = false

def Leaves (account : Account) (row after : UsageRow) : Prop :=
  match account.outcome with
  | .reported => ∃ record now, account.replies.record = .ok record ∧
    after = row.markReported (some record.id) now
  | .retired => ∃ now, after = row.markReported none now
  | .skipped | .failed => after = row

/-- What is done about a group besides what is idle. -/
inductive Core (account : Account) : List Performed → Prop
  | none (outcome : account.outcome = .skipped ∨ account.outcome = .failed) : Core account []
  | retire (outcome : account.outcome = account.replies.retired) :
      Core account (account.replies.retiring account.group)
  | bill (item : Provider.Item) (outcome : account.outcome = account.replies.billed) :
      Core account (account.replies.billing account.group item)

end Account

theorem idle_find (tenant : Uuid) (row : Except Fault (Option Subscription)) :
    Idle ⟨.findByTenant tenant, row⟩ := ⟨rfl, fun _ => rfl, nofun, nofun, nofun⟩

theorem idle_now (now : Instant) : Idle ⟨.now, now⟩ := ⟨rfl, fun _ => rfl, nofun, nofun, nofun⟩

theorem idle_count (counter : Counter) : Idle ⟨.count counter, ()⟩ :=
  ⟨rfl, fun _ => rfl, nofun, nofun, nofun⟩

theorem idle_fetch (id : String) (answer : Except Provider.Error Provider.RemoteSubscription) :
    Idle ⟨.ask (.getSubscription id), answer⟩ := ⟨rfl, fun _ => rfl, nofun, nofun, nofun⟩

theorem core_settling (account : Account) (remote : Provider.RemoteSubscription)
    (outcome : account.outcome = account.replies.settled account.group remote) :
    account.Core (account.replies.settling account.group remote) := by
  unfold Replies.settled at outcome
  unfold Replies.settling
  cases found : remote.itemFor? account.group.metric with
  | some item =>
      rw [found] at outcome
      exact .bill item outcome
  | none =>
      rw [found] at outcome
      exact .retire outcome

theorem handling_core (account : Account) : ∃ idle core, (∀ performed ∈ idle, Idle performed) ∧
    account.Core core ∧ account.handling = idle ++ core := by
  unfold Account.handling
  cases found : account.row with
  | error fault =>
      have outcome : account.outcome = .failed := by simp [Account.outcome, found]
      exact ⟨[], [], by simp, .none (.inr outcome), rfl⟩
  | ok row =>
      cases linked : row.bind (·.providerId) with
      | none =>
          by_cases closed : account.group.period.finish ≤ account.replies.now
          · have outcome : account.outcome = account.replies.retired := by
              simp [Account.outcome, found, linked, closed]
            refine ⟨[⟨.now, account.replies.now⟩], _, ?_, .retire outcome, ?_⟩
            · simpa using idle_now account.replies.now
            · simp [linked, Account.closing, closed]
          · have outcome : account.outcome = .skipped := by
              simp [Account.outcome, found, linked, closed]
            refine ⟨[⟨.now, account.replies.now⟩], [], ?_, .none (.inl outcome), ?_⟩
            · simpa using idle_now account.replies.now
            · simp [linked, Account.closing, closed]
      | some providerId =>
          have idle : ∀ performed ∈ account.fetching providerId, Idle performed := by
            unfold Account.fetching
            split
            · simp
            · simpa using idle_fetch providerId account.answer
          cases answered : account.remote providerId with
          | error error =>
              have outcome : account.outcome = .failed := by
                simp [Account.outcome, found, linked, answered]
              exact ⟨_, [], idle, .none (.inr outcome), by simp [linked, Account.onward, answered]⟩
          | ok remote =>
              have outcome : account.outcome = account.replies.settled account.group remote := by
                simp [Account.outcome, found, linked, answered]
              exact ⟨_, _, idle, core_settling account remote outcome,
                by simp [linked, Account.onward, answered]⟩

theorem trace_core (account : Account) : ∃ before core after, (∀ performed ∈ before, Idle performed) ∧
    (∀ performed ∈ after, Idle performed) ∧ account.Core core ∧
    account.trace = before ++ core ++ after := by
  obtain ⟨idle, core, allIdle, isCore, handling⟩ := handling_core account
  have counting : ∀ performed ∈ account.counting, Idle performed := by
    unfold Account.counting
    intro performed member
    rcases List.mem_cons.mp member with rfl | rest
    · exact idle_count _
    · split at rest
      · rw [List.mem_singleton.mp rest]
        exact idle_count _
      · cases rest
  refine ⟨⟨.findByTenant account.group.tenant, account.row⟩ :: idle, core, account.counting, ?_, counting,
    isCore, ?_⟩
  · exact List.forall_mem_cons.mpr ⟨idle_find account.group.tenant account.row, allIdle⟩
  · rw [Account.trace, handling, List.cons_append, List.cons_append, List.append_assoc]

theorem filterMap_of_idle {β : Type} {read : Performed → Option β} {idle : List Performed}
    (none : ∀ performed ∈ idle, read performed = none) : idle.filterMap read = [] :=
  List.filterMap_eq_nil_iff.mpr none

theorem exists_core (account : Account) : ∃ core, account.Core core ∧
    account.usageCalls = core.filterMap usageCall? ∧
    (∀ id, account.trace.findSome? (·.marks? id) = core.findSome? (·.marks? id)) ∧
    ∀ performed ∈ account.trace, performed ∈ core ∨ Idle performed := by
  obtain ⟨before, core, after, idleBefore, idleAfter, isCore, trace⟩ := trace_core account
  refine ⟨core, isCore, ?_, fun id => ?_, fun performed member => ?_⟩
  · rw [Account.usageCalls, trace, List.filterMap_append, List.filterMap_append,
      filterMap_of_idle fun performed member => (idleBefore performed member).calls,
      filterMap_of_idle fun performed member => (idleAfter performed member).calls,
      List.nil_append, List.append_nil]
  · have first : before.findSome? (·.marks? id) = none :=
      List.findSome?_eq_none_iff.mpr fun performed member => (idleBefore performed member).marks id
    have last : after.findSome? (·.marks? id) = none :=
      List.findSome?_eq_none_iff.mpr fun performed member => (idleAfter performed member).marks id
    rw [trace, List.findSome?_append, List.findSome?_append, first, last, Option.none_or, Option.or_none]
  · rw [trace, List.mem_append, List.mem_append] at member
    rcases member with (early | own) | late
    · exact .inr (idleBefore performed early)
    · exact .inl own
    · exact .inr (idleAfter performed late)

end Reporting

def ReportSummary.count (summary : ReportSummary) : GroupOutcome → Nat
  | .reported => summary.reported
  | .skipped => summary.skipped
  | .retired => summary.retired
  | .failed => summary.failed

namespace Reporting

/-- How a row ends. One that had been reported stays as it is, and any other as its group's outcome
says. -/
def Ends (accounts : List Account) (row after : UsageRow) : Prop :=
  (row.reported = true → after = row) ∧
  (row.reported = false → ∃ account ∈ accounts, account.group.key = row.groupKey ∧
    row.id ∈ account.group.rowIds ∧ account.Leaves row after)

theorem obeys_pass : pass.outcome.Obeys traceRules [] fun result trace => ∀ groups rest,
    trace = ⟨.unreportedUsage, .ok groups⟩ :: rest → ∃ accounts : List Account,
      accounts.map (·.group) = groups ∧ Chained [] accounts ∧
      rest = accounts.flatMap Account.trace ∧
      result = .ok ((accounts.map Account.outcome).foldl ReportSummary.add {}) := by
  refine ⟨trivial, ?_⟩
  rintro (fault | read)
  · intro groups rest same
    cases same
  · change Program.Obeys _
      (handleAll read [] {} >>= fun summary => pure (Except.ok summary : Except Fault _)) _ _
    apply Program.obeys_bind
    refine (obeys_handleAll read [] {} _).mono ?_
    rintro summary after ⟨accounts, whole, chained, trace, rfl⟩ groups rest same
    cases trace.symm.trans same
    exact ⟨accounts, whole, chained, rfl, rfl⟩

end Reporting

end UsageBilling
