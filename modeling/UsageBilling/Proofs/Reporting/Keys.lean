import UsageBilling.Proofs.Reporting.Outcomes
import UsageBilling.Proofs.Text.Identifiers
/-!
The idempotency key of a group stands for its rows. What is hashed for the key is the same for two
groups exactly if they have the same rows, in whatever order, since ids have one width and are sorted
first. So passes that read the same rows send the same key, and passes that read different rows send
different keys, unless the hash collides.
-/
namespace UsageBilling

namespace Uuid

theorem le_trans {a b c : Uuid} (first : a ≤ b) (second : b ≤ c) : a ≤ c := BitVec.le_trans first second

theorem le_total (a b : Uuid) : a ≤ b ∨ b ≤ a := BitVec.le_total a.bits b.bits

theorem le_antisymm {a b : Uuid} (first : a ≤ b) (second : b ≤ a) : a = b :=
  congrArg Uuid.mk (BitVec.le_antisymm first second)

theorem length_octets (id : Uuid) : id.octets.length = 16 := length_bigEndian 16 id.bits.toNat

theorem octets_injective {a b : Uuid} (same : a.octets = b.octets) : a = b := by
  have bounded (id : Uuid) : id.bits.toNat < 256 ^ 16 := id.bits.isLt
  have first := foldl_bigEndian (bounded a)
  have second := foldl_bigEndian (bounded b)
  rw [octets, octets] at same
  rw [same, second] at first
  exact congrArg Uuid.mk (BitVec.eq_of_toNat_eq first.symm)

/-- Ids that are written one after the other are found again, since they have one width. -/
theorem flatMap_octets_injective {ids others : List Uuid}
    (same : ids.flatMap octets = others.flatMap octets) : ids = others := by
  induction ids generalizing others with
  | nil =>
      cases others with
      | nil => rfl
      | cons other others =>
          have length := congrArg List.length same
          simp only [List.flatMap_nil, List.flatMap_cons, List.length_append, length_octets,
            List.length_nil] at length
          omega
  | cons id ids ih =>
      cases others with
      | nil =>
          have length := congrArg List.length same
          simp only [List.flatMap_nil, List.flatMap_cons, List.length_append, length_octets,
            List.length_nil] at length
          omega
      | cons other others =>
          rw [List.flatMap_cons, List.flatMap_cons] at same
          -- Ids have one width, so the first two end at the same place.
          have width : id.octets.length = other.octets.length := by rw [length_octets, length_octets]
          obtain ⟨first, rest⟩ := List.append_inj same width
          rw [octets_injective first, ih rest]

theorem sorted (ids : List Uuid) : (ids.mergeSort (· ≤ ·)).Pairwise (· ≤ ·) := by
  have pairs : (ids.mergeSort (· ≤ ·)).Pairwise (fun a b => decide (a ≤ b) = true) := by
    apply List.pairwise_mergeSort
    · intro a b c first second
      exact decide_eq_true (le_trans (of_decide_eq_true first) (of_decide_eq_true second))
    · intro a b
      simpa using le_total a b
  exact pairs.imp of_decide_eq_true

theorem mergeSort_eq_iff {ids others : List Uuid} :
    ids.mergeSort (· ≤ ·) = others.mergeSort (· ≤ ·) ↔ ids.Perm others := by
  have own := List.mergeSort_perm ids (· ≤ ·)
  have other := List.mergeSort_perm others (· ≤ ·)
  constructor
  · intro same
    exact own.symm.trans (same ▸ other)
  · intro perm
    exact ((own.trans perm).trans other.symm).eq_of_pairwise
      (fun _ _ _ _ first second => le_antisymm first second) (sorted ids) (sorted others)

end Uuid

namespace UsageGroup

variable {group other : UsageGroup}

theorem keyOctets_eq_iff : group.keyOctets = other.keyOctets ↔ group.rowIds.Perm other.rowIds := by
  rw [← Uuid.mergeSort_eq_iff]
  exact ⟨Uuid.flatMap_octets_injective, congrArg _⟩

theorem idempotencyKey_of_perm (perm : group.rowIds.Perm other.rowIds) :
    group.idempotencyKey = other.idempotencyKey := by
  rw [idempotencyKey, idempotencyKey, keyOctets_eq_iff.mpr perm]

theorem hash_of_idempotencyKey (same : group.idempotencyKey = other.idempotencyKey) :
    Digest.sha256 group.keyOctets = Digest.sha256 other.keyOctets := by
  have digits := String.ofList_injective ((String.append_right_inj _).mp same)
  apply Option.some.inj
  rw [← Text.ofHex?_hex, ← Text.ofHex?_hex, digits]

end UsageGroup

def Digest.Collide (message other : List UInt8) : Prop :=
  message ≠ other ∧ sha256 message = sha256 other

theorem UsageGroup.perm_or_collide {group other : UsageGroup}
    (same : group.idempotencyKey = other.idempotencyKey) :
    group.rowIds.Perm other.rowIds ∨ Digest.Collide group.keyOctets other.keyOctets := by
  by_cases equal : group.keyOctets = other.keyOctets
  · exact .inl (keyOctets_eq_iff.mp equal)
  · exact .inr ⟨equal, hash_of_idempotencyKey same⟩

namespace Reporting

/-- In a pass with these actions the group has been read, and the report has been sent for it. -/
structure Sends (trace : List Performed) (group : UsageGroup) (report : Provider.UsageReport) : Prop where
  read : ∃ groups, ⟨.unreportedUsage, .ok groups⟩ ∈ trace ∧ group ∈ groups
  sent : ∃ answer, ⟨.ask (.createUsageRecord report), answer⟩ ∈ trace
  content : ∃ (replies : Replies) (item : Provider.Item), report = replies.report group item

theorem Sends.key {trace : List Performed} {group : UsageGroup} {report : Provider.UsageReport}
    (sends : Sends trace group report) : report.idempotencyKey = some group.idempotencyKey := by
  obtain ⟨replies, item, rfl⟩ := sends.content
  rfl

theorem report_of_mem_trace {account : Account} {report : Provider.UsageReport}
    {answer : Except Provider.Error Provider.UsageRecord}
    (member : ⟨.ask (.createUsageRecord report), answer⟩ ∈ account.trace) :
    ∃ item, report = account.replies.report account.group item := by
  obtain ⟨core, isCore, _, _, parts⟩ := exists_core account
  rcases parts _ member with inCore | idle
  · cases isCore with
    | none => cases inCore
    | retire => simp [Replies.retiring] at inCore
    | bill item =>
        rcases List.mem_cons.mp inCore with same | inCore
        · cases same
        rcases List.mem_cons.mp inCore with same | inCore
        · cases same
          exact ⟨item, rfl⟩
        · cases record : account.replies.record with
          | error error => simp [record] at inCore
          | ok booked => simp [record] at inCore
  · cases idle.calls

/-- What a pass sends, it sends for a group that it has read. -/
theorem sends_of_mem (answers : Nat → Provider.Answers) (changes : Nat → List Change) (service : Service)
    {report : Provider.UsageReport} {answer : Except Provider.Error Provider.UsageRecord}
    (member : ⟨.ask (.createUsageRecord report), answer⟩ ∈
      (pass.outcome.conduct answers changes service).trace) :
    ∃ group, Sends (pass.outcome.conduct answers changes service).trace group report := by
  cases read : service.store.unreportedUsage with
  | error fault =>
      obtain ⟨next, program, ends⟩ : ∃ next, pass.outcome = .step .unreportedUsage next ∧
          ∀ fault, next (.error fault) = .done (.error fault) := ⟨_, rfl, fun _ => rfl⟩
      have reply : (service.act (answers 0) .unreportedUsage).1 = .error fault := read
      simp only [program, Program.conduct, reply, ends, List.mem_singleton] at member
      cases member
  | ok groups =>
      obtain ⟨rest, began⟩ : ∃ rest, (pass.outcome.conduct answers changes service).trace =
          ⟨.unreportedUsage, .ok groups⟩ :: rest := by
        rw [← read]
        exact ⟨_, rfl⟩
      obtain ⟨accounts, rfl, _, rfl, _⟩ := obeys_pass.conduct answers changes service groups rest began
      have later := member
      rw [began] at later
      rcases List.mem_cons.mp later with same | later
      · cases same
      obtain ⟨account, listed, own⟩ := List.mem_flatMap.mp later
      obtain ⟨item, content⟩ := report_of_mem_trace own
      refine ⟨account.group, ⟨_, ?_, List.mem_map_of_mem listed⟩, ⟨answer, member⟩, ⟨_, item, content⟩⟩
      rw [began]
      exact List.mem_cons_self

/-- What is hashed for the keys of two groups is the same exactly if the groups have the same rows, in
whatever order. In passes every report carries the key of a group that has been read: for the same rows
two passes send the same key, and for different rows different ones, unless the hash collides. -/
theorem keys_identify_rows (group other : UsageGroup) :
    (group.keyOctets = other.keyOctets ↔ group.rowIds.Perm other.rowIds) ∧
    (group.rowIds.Nodup → other.rowIds.Nodup →
      (group.keyOctets = other.keyOctets ↔ ∀ id, id ∈ group.rowIds ↔ id ∈ other.rowIds)) ∧
    ∀ (answers otherAnswers : Nat → Provider.Answers) (changes otherChanges : Nat → List Change)
      (service otherService : Service),
      let trace := (pass.outcome.conduct answers changes service).trace
      let otherTrace := (pass.outcome.conduct otherAnswers otherChanges otherService).trace
      (∀ report answer, ⟨.ask (.createUsageRecord report), answer⟩ ∈ trace →
        ∃ read, Sends trace read report ∧ report.idempotencyKey = some read.idempotencyKey) ∧
      ∀ report otherReport, Sends trace group report → Sends otherTrace other otherReport →
        (group.rowIds.Perm other.rowIds → report.idempotencyKey = otherReport.idempotencyKey) ∧
        (¬ group.rowIds.Perm other.rowIds → ¬ Digest.Collide group.keyOctets other.keyOctets →
          report.idempotencyKey ≠ otherReport.idempotencyKey) := by
  refine ⟨UsageGroup.keyOctets_eq_iff, fun distinct otherDistinct => ?_, ?_⟩
  · rw [UsageGroup.keyOctets_eq_iff, List.perm_ext_iff_of_nodup distinct otherDistinct]
  · intro answers otherAnswers changes otherChanges service otherService trace otherTrace
    refine ⟨fun report answer member => ?_, fun report otherReport sends otherSends => ⟨?_, ?_⟩⟩
    · obtain ⟨read, sends⟩ := sends_of_mem answers changes service member
      exact ⟨read, sends, sends.key⟩
    · intro perm
      rw [sends.key, otherSends.key, UsageGroup.idempotencyKey_of_perm perm]
    · intro different free same
      rw [sends.key, otherSends.key] at same
      exact (UsageGroup.perm_or_collide (Option.some.inj same)).elim different free

def twoRows (first second : Uuid) : Service where
  clock := ⟨1700000000, 0⟩
  store := {
    usage := [
      .fresh first ⟨⟨1⟩, .testRuns, 5, november⟩ ⟨1700000000, 0⟩,
      .fresh second ⟨⟨1⟩, .testRuns, 5, november⟩ ⟨1700000000, 0⟩]
    subscriptions :=
      [{ Subscription.freeTier ⟨21⟩ ⟨1⟩ ⟨1600000000, 0⟩ with providerId := some "sub_1" }] }

def twoRowGroup (first second : Uuid) : UsageGroup :=
  ⟨⟨1⟩, Metric.testRuns.name, november, 10, [first, second]⟩

theorem sends_twoRows (first second : Uuid) :
    Sends (pass.outcome.conduct (fun _ => metered) (fun _ => []) (twoRows first second)).trace
      (twoRowGroup first second)
      ⟨"si_1", 10, 1700000000, .increment, some (twoRowGroup first second).idempotencyKey⟩ where
  read := ⟨[twoRowGroup first second], List.mem_cons_self, List.mem_cons_self⟩
  sent := ⟨.ok { id := "mbur_1" }, List.mem_of_getElem? (i := 4) rfl⟩
  content := ⟨⟨⟨1700000000, 0⟩, .error .notConfigured, .ok 0⟩, { id := "si_1" }, rfl⟩

/-- Two passes that read the same two rows, each in an order of its own. -/
theorem keys_identify_rows_reordered :
    (twoRowGroup ⟨11⟩ ⟨12⟩).rowIds.Nodup ∧ (twoRowGroup ⟨12⟩ ⟨11⟩).rowIds.Nodup ∧
    (twoRowGroup ⟨11⟩ ⟨12⟩).rowIds ≠ (twoRowGroup ⟨12⟩ ⟨11⟩).rowIds ∧
    (twoRowGroup ⟨11⟩ ⟨12⟩).keyOctets = (twoRowGroup ⟨12⟩ ⟨11⟩).keyOctets ∧
    ∃ report otherReport,
      Sends (pass.outcome.conduct (fun _ => metered) (fun _ => []) (twoRows ⟨11⟩ ⟨12⟩)).trace
        (twoRowGroup ⟨11⟩ ⟨12⟩) report ∧
      Sends (pass.outcome.conduct (fun _ => metered) (fun _ => []) (twoRows ⟨12⟩ ⟨11⟩)).trace
        (twoRowGroup ⟨12⟩ ⟨11⟩) otherReport ∧
      report.idempotencyKey = otherReport.idempotencyKey := by
  have distinct : (twoRowGroup ⟨11⟩ ⟨12⟩).rowIds.Nodup := by decide
  have otherDistinct : (twoRowGroup ⟨12⟩ ⟨11⟩).rowIds.Nodup := by decide
  have same : ∀ id, id ∈ (twoRowGroup ⟨11⟩ ⟨12⟩).rowIds ↔ id ∈ (twoRowGroup ⟨12⟩ ⟨11⟩).rowIds := by
    intro id
    simp [twoRowGroup, or_comm]
  obtain ⟨octets, members, passes⟩ := keys_identify_rows (twoRowGroup ⟨11⟩ ⟨12⟩) (twoRowGroup ⟨12⟩ ⟨11⟩)
  have equal := (members distinct otherDistinct).mpr same
  have sends := sends_twoRows ⟨11⟩ ⟨12⟩
  have otherSends := sends_twoRows ⟨12⟩ ⟨11⟩
  refine ⟨distinct, otherDistinct, by decide, equal, _, _, sends, otherSends, ?_⟩
  exact ((passes _ _ _ _ _ _).2 _ _ sends otherSends).1 (octets.mp equal)

end Reporting

end UsageBilling
