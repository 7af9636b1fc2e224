import UsageBilling.Proofs.Service.Conduct
import UsageBilling.Reporting
import UsageBilling.Service.Run
/-!
What a pass does about each group. The account of a group says what was found about it; its outcome and
the actions taken follow from that alone. A pass takes the actions of one group after the other, and all
that one group leaves to the next are the subscriptions that were fetched.
-/
namespace UsageBilling

def traceRules : Rules (List Performed) where
  allows _ _ := True
  learn trace action reply := trace ++ [⟨action, reply⟩]

namespace Reporting

/-- What is replied while a group is settled. What was not asked for does not matter. -/
structure Replies where
  now : Instant
  record : Except Provider.Error Provider.UsageRecord
  marked : Except Fault Nat
  deriving Inhabited

namespace Replies

variable (replies : Replies) (group : UsageGroup)

def retired : GroupOutcome := if replies.marked.isOk then .retired else .failed

def billed : GroupOutcome := if replies.record.isOk ∧ replies.marked.isOk then .reported else .failed

def settled (remote : Provider.RemoteSubscription) : GroupOutcome :=
  if (remote.itemFor? group.metric).isSome then replies.billed else replies.retired

def retiring : List Performed := [⟨.markReported group.rowIds none, replies.marked⟩]

def report (item : Provider.Item) : Provider.UsageReport where
  itemId := item.id
  quantity := group.quantity
  timestamp := replies.now.seconds
  action := .increment
  idempotencyKey := some group.idempotencyKey

def billing (item : Provider.Item) : List Performed :=
  ⟨.now, replies.now⟩ :: ⟨.ask (.createUsageRecord (replies.report group item)), replies.record⟩ ::
    match replies.record with
    | .ok record => [⟨.markReported group.rowIds (some record.id), replies.marked⟩]
    | .error _ => []

def settling (remote : Provider.RemoteSubscription) : List Performed :=
  match remote.itemFor? group.metric with
  | some item => replies.billing group item
  | none => replies.retiring group

end Replies

/-- What was found about a group. -/
structure Account where
  group : UsageGroup
  /-- What had been fetched before. -/
  fetched : Fetched
  row : Except Fault (Option Subscription)
  /-- What the provider answers about the subscription if that had not been fetched. -/
  answer : Except Provider.Error Provider.RemoteSubscription
  replies : Replies

namespace Account

variable (account : Account)

def remote (providerId : String) : Except Provider.Error Provider.RemoteSubscription :=
  match account.fetched.lookup providerId with
  | some remote => .ok remote
  | none => account.answer

def outcome : GroupOutcome :=
  match account.row with
  | .error _ => .failed
  | .ok row =>
    match row.bind (·.providerId) with
    | none =>
      if account.group.period.finish ≤ account.replies.now then account.replies.retired else .skipped
    | some providerId =>
      match account.remote providerId with
      | .ok remote => account.replies.settled account.group remote
      | .error _ => .failed

def closing : List Performed :=
  ⟨.now, account.replies.now⟩ ::
    if account.group.period.finish ≤ account.replies.now then account.replies.retiring account.group
    else []

def fetching (providerId : String) : List Performed :=
  match account.fetched.lookup providerId with
  | some _ => []
  | none => [⟨.ask (.getSubscription providerId), account.answer⟩]

def onward (providerId : String) : List Performed :=
  match account.remote providerId with
  | .ok remote => account.replies.settling account.group remote
  | .error _ => []

def handling : List Performed :=
  match account.row with
  | .error _ => []
  | .ok row =>
    match row.bind (·.providerId) with
    | none => account.closing
    | some providerId => account.fetching providerId ++ account.onward providerId

def counting : List Performed :=
  ⟨.count (.reports account.outcome), ()⟩ ::
    if account.outcome = .failed then [⟨.count (.errors "usage_report" account.group.metric), ()⟩]
    else []

def trace : List Performed :=
  ⟨.findByTenant account.group.tenant, account.row⟩ :: (account.handling ++ account.counting)

end Account

def fetchedBy? : Performed → Option (String × Provider.RemoteSubscription)
  | ⟨.ask (.getSubscription id), .ok remote⟩ => some (id, remote)
  | _ => none

def fetchedIn (trace : List Performed) : Fetched := (trace.filterMap fetchedBy?).reverse

/-- A fault is what becomes of a group that failed. -/
def Agrees (result : Except Fault GroupOutcome) (outcome : GroupOutcome) : Prop :=
  result = .ok outcome ∧ outcome ≠ .failed ∨ (∃ fault, result = .error fault) ∧ outcome = .failed

theorem fetchedIn_append (first second : List Performed) :
    fetchedIn (first ++ second) = fetchedIn second ++ fetchedIn first := by
  unfold fetchedIn
  rw [List.filterMap_append, List.reverse_append]

theorem fetchedIn_cons (performed : Performed) (trace : List Performed) :
    fetchedIn (performed :: trace) = fetchedIn trace ++ (fetchedBy? performed).toList := by
  unfold fetchedIn
  cases fetched : fetchedBy? performed with
  | none => simp [fetched]
  | some entry => simp [fetched]

theorem fetchedIn_settling (replies : Replies) (group : UsageGroup)
    (remote : Provider.RemoteSubscription) : fetchedIn (replies.settling group remote) = [] := by
  unfold Replies.settling
  split
  · unfold Replies.billing
    cases replies.record <;> rfl
  · rfl

theorem fetchedIn_closing (account : Account) : fetchedIn account.closing = [] := by
  unfold Account.closing
  split <;> rfl

section

variable (group : UsageGroup) (trace : List Performed)

theorem obeys_retire (now : Instant) (record : Except Provider.Error Provider.UsageRecord) :
    (retire group).outcome.Obeys traceRules trace fun result after => ∃ marked,
      after = trace ++ Replies.retiring ⟨now, record, marked⟩ group ∧
        Agrees result (Replies.retired ⟨now, record, marked⟩) := by
  refine ⟨trivial, fun marked => ?_⟩
  cases marked with
  | error fault => exact ⟨.error fault, rfl, .inr ⟨⟨fault, rfl⟩, rfl⟩⟩
  | ok count => exact ⟨.ok count, rfl, .inl ⟨rfl, nofun⟩⟩

theorem obeys_bill (item : Provider.Item) :
    (bill group item).outcome.Obeys traceRules trace fun result after => ∃ replies : Replies,
      after = trace ++ replies.billing group item ∧ Agrees result replies.billed := by
  refine ⟨trivial, fun now => ⟨trivial, fun record => ?_⟩⟩
  cases record with
  | error error =>
      refine ⟨⟨now, .error error, .ok 0⟩, ?_, .inr ⟨⟨error.toFault, rfl⟩, rfl⟩⟩
      exact List.append_assoc trace _ _
  | ok record =>
      refine ⟨trivial, fun marked => ?_⟩
      -- the three actions, learnt one after the other
      have whole (first second third : Performed) :
          trace ++ [first] ++ [second] ++ [third] = trace ++ [first, second, third] := by simp
      cases marked with
      | error fault =>
          exact ⟨⟨now, .ok record, .error fault⟩, whole _ _ _, .inr ⟨⟨fault, rfl⟩, rfl⟩⟩
      | ok count => exact ⟨⟨now, .ok record, .ok count⟩, whole _ _ _, .inl ⟨rfl, nofun⟩⟩

theorem obeys_settle (remote : Provider.RemoteSubscription) :
    (settle group remote).outcome.Obeys traceRules trace fun result after => ∃ replies : Replies,
      after = trace ++ replies.settling group remote ∧
        Agrees result (replies.settled group remote) := by
  unfold settle Replies.settling Replies.settled
  cases remote.itemFor? group.metric with
  | some item => exact obeys_bill group trace item
  | none =>
      have retires := obeys_retire group trace default (.error .notConfigured)
      refine retires.mono fun result after ends => ?_
      obtain ⟨marked, actions, agrees⟩ := ends
      exact ⟨_, actions, agrees⟩

/-- Some account of the group has led to the actions and to the result. -/
def Accounted (fetched : Fetched) (result : Except Fault GroupOutcome × Fetched)
    (after : List Performed) : Prop :=
  ∃ account : Account, account.group = group ∧ account.fetched = fetched ∧
    after = trace ++ ⟨.findByTenant group.tenant, account.row⟩ :: account.handling ∧
    Agrees result.1 account.outcome ∧ result.2 = fetchedIn account.handling ++ fetched

variable {group trace} {fetched : Fetched} {row : Option Subscription}

theorem accounted_closed (unlinked : row.bind (·.providerId) = none) (now : Instant)
    (closed : group.period.finish ≤ now) :
    (do return (← (retire group).outcome, fetched) : Program _).Obeys traceRules
      (trace ++ [⟨.findByTenant group.tenant, .ok row⟩] ++ [⟨.now, now⟩])
      (Accounted group trace fetched) := by
  apply Program.obeys_bind
  refine (obeys_retire group _ now (.error .notConfigured)).mono fun result after ends => ?_
  obtain ⟨marked, actions, agrees⟩ := ends
  refine ⟨⟨group, fetched, .ok row, .error .notConfigured, ⟨now, .error .notConfigured, marked⟩⟩, rfl,
    rfl, ?_, ?_, ?_⟩
  · simp [actions, Account.handling, unlinked, Account.closing, closed]
  · simpa [Account.outcome, unlinked, closed] using agrees
  · simp [Account.handling, unlinked, fetchedIn_closing]

theorem accounted_skipped (unlinked : row.bind (·.providerId) = none) (now : Instant)
    (opened : ¬ group.period.finish ≤ now) : Accounted group trace fetched (.ok .skipped, fetched)
      (trace ++ [⟨.findByTenant group.tenant, .ok row⟩] ++ [⟨.now, now⟩]) := by
  refine ⟨⟨group, fetched, .ok row, .error .notConfigured, ⟨now, .error .notConfigured, .ok 0⟩⟩, rfl,
    rfl, ?_, .inl ⟨?_, ?_⟩, ?_⟩
  · simp [Account.handling, unlinked, Account.closing, opened]
  · simp [Account.outcome, unlinked, opened]
  · simp [Account.outcome, unlinked, opened]
  · simp [Account.handling, unlinked, fetchedIn_closing]

theorem accounted_known {providerId : String} {remote : Provider.RemoteSubscription}
    (linked : row.bind (·.providerId) = some providerId) (known : fetched.lookup providerId = some remote) :
    (do return (← (settle group remote).outcome, fetched) : Program _).Obeys traceRules
      (trace ++ [⟨.findByTenant group.tenant, .ok row⟩]) (Accounted group trace fetched) := by
  apply Program.obeys_bind
  refine (obeys_settle group _ remote).mono fun result after ends => ?_
  obtain ⟨replies, actions, agrees⟩ := ends
  refine ⟨⟨group, fetched, .ok row, .error .notConfigured, replies⟩, rfl, rfl, ?_, ?_, ?_⟩
  · simp [actions, Account.handling, linked, Account.fetching, Account.onward, Account.remote, known]
  · simpa [Account.outcome, linked, Account.remote, known] using agrees
  · simp [Account.handling, linked, Account.fetching, Account.onward, Account.remote, known, fetchedIn_settling]

theorem accounted_fetched {providerId : String} {remote : Provider.RemoteSubscription}
    (linked : row.bind (·.providerId) = some providerId) (unknown : fetched.lookup providerId = none) :
    (do return (← (settle group remote).outcome, (providerId, remote) :: fetched) : Program _).Obeys
      traceRules (trace ++ [⟨.findByTenant group.tenant, .ok row⟩] ++
        [⟨.ask (.getSubscription providerId), .ok remote⟩]) (Accounted group trace fetched) := by
  apply Program.obeys_bind
  refine (obeys_settle group _ remote).mono fun result after ends => ?_
  obtain ⟨replies, actions, agrees⟩ := ends
  refine ⟨⟨group, fetched, .ok row, .ok remote, replies⟩, rfl, rfl, ?_, ?_, ?_⟩
  · simp [actions, Account.handling, linked, Account.fetching, Account.onward, Account.remote, unknown]
  · simpa [Account.outcome, linked, Account.remote, unknown] using agrees
  · simp [Account.handling, linked, Account.fetching, Account.onward, Account.remote, unknown, fetchedIn_cons,
      fetchedIn_settling, fetchedBy?]

theorem accounted_lost {providerId : String} (linked : row.bind (·.providerId) = some providerId)
    (unknown : fetched.lookup providerId = none) (error : Provider.Error) :
    Accounted group trace fetched (.error error.toFault, fetched)
      (trace ++ [⟨.findByTenant group.tenant, .ok row⟩] ++
        [⟨.ask (.getSubscription providerId), .error error⟩]) := by
  refine ⟨⟨group, fetched, .ok row, .error error, default⟩, rfl, rfl, ?_, .inr ⟨⟨_, rfl⟩, ?_⟩, ?_⟩
  · simp [Account.handling, linked, Account.fetching, Account.onward, Account.remote, unknown]
  · simp [Account.outcome, linked, Account.remote, unknown]
  · simp [Account.handling, linked, Account.fetching, Account.onward, Account.remote, unknown]
    rfl

theorem obeys_handle (group : UsageGroup) (fetched : Fetched) (trace : List Performed) :
    (handle group fetched).Obeys traceRules trace (Accounted group trace fetched) := by
  apply Program.obeys_bind
  refine Program.obeys_perform trivial ?_
  intro row
  cases row with
  | error fault =>
      exact ⟨⟨group, fetched, .error fault, .error .notConfigured, default⟩, rfl, rfl, rfl,
        .inr ⟨⟨fault, rfl⟩, rfl⟩, rfl⟩
  | ok row =>
      dsimp only
      split
      · next unlinked =>
          apply Program.obeys_bind
          refine Program.obeys_perform trivial ?_
          intro now
          split
          · next closed => exact accounted_closed unlinked now closed
          · next opened => exact accounted_skipped unlinked now opened
      · next providerId linked =>
          split
          · next remote known => exact accounted_known linked known
          · next unknown =>
              apply Program.obeys_bind
              refine Program.obeys_perform trivial ?_
              intro answer
              cases answer with
              | error error => exact accounted_lost linked unknown error
              | ok remote => exact accounted_fetched linked unknown

end

theorem fetchedIn_trace (account : Account) :
    fetchedIn account.trace = fetchedIn account.handling := by
  have counting : fetchedIn account.counting = [] := by
    unfold Account.counting
    split <;> rfl
  rw [Account.trace, fetchedIn_cons, fetchedIn_append, counting]
  exact List.append_nil _

/-- Each account knows what was fetched before it and in those before it. -/
def Chained : Fetched → List Account → Prop
  | _, [] => True
  | fetched, account :: accounts =>
    account.fetched = fetched ∧ Chained (fetchedIn account.trace ++ fetched) accounts

theorem obeys_handleAll (groups : List UsageGroup) (fetched : Fetched) (summary : ReportSummary)
    (trace : List Performed) :
    (handleAll groups fetched summary).Obeys traceRules trace fun total after =>
      ∃ accounts : List Account, accounts.map (·.group) = groups ∧ Chained fetched accounts ∧
        after = trace ++ accounts.flatMap Account.trace ∧
        total = (accounts.map Account.outcome).foldl ReportSummary.add summary := by
  induction groups generalizing fetched summary trace with
  | nil => exact ⟨[], rfl, trivial, (List.append_nil trace).symm, rfl⟩
  | cons group groups ih =>
      apply Program.obeys_bind
      refine (obeys_handle group fetched trace).mono ?_
      rintro ⟨result, more⟩ after ⟨account, rfl, rfl, actions, agrees, fetches⟩
      dsimp only at agrees fetches ⊢
      have chained (accounts : List Account) (rest : Chained more accounts) :
          Chained account.fetched (account :: accounts) := by
        refine ⟨rfl, ?_⟩
        rwa [fetchedIn_trace, ← fetches]
      rcases agrees with ⟨rfl, success⟩ | ⟨⟨fault, rfl⟩, failure⟩
      · refine ⟨trivial, fun _ => ?_⟩
        refine (ih more (summary.add account.outcome) _).mono ?_
        rintro total ended ⟨accounts, rfl, rest, whole, sum⟩
        refine ⟨account :: accounts, rfl, chained accounts rest, ?_, sum⟩
        rw [whole, actions]
        simp [Account.trace, Account.counting, success, traceRules]
      · refine ⟨trivial, fun _ => ⟨trivial, fun _ => ?_⟩⟩
        refine (ih more (summary.add .failed) _).mono ?_
        rintro total ended ⟨accounts, rfl, rest, whole, sum⟩
        refine ⟨account :: accounts, rfl, chained accounts rest, ?_, ?_⟩
        · rw [whole, actions]
          simp [Account.trace, Account.counting, failure, traceRules]
        · rw [sum, List.map_cons, List.foldl_cons, failure]

end Reporting

end UsageBilling
