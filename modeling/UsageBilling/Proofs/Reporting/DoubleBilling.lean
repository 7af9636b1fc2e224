import Mathlib
import UsageBilling.Proofs.Reporting.Outstanding
import UsageBilling.Proofs.Service.Frame
/-!
Billing across passes that are cut short. A row is billed a second time exactly where its group has
been billed and left unmarked, has grown by a row before the next pass, and is billed again: the key of
the grown group is a new one, and the provider adds its whole amount. Otherwise the ledger never holds
more than the rows.
-/
namespace UsageBilling

namespace Reporting

theorem map_eq_of_bills {β : Type} {ledger : List Provider.UsageReport} {billed : List UsageGroup}
    {ofReport : Provider.UsageReport → β} {ofGroup : UsageGroup → β}
    (bills : List.Forall₂ Bills ledger billed)
    (agree : ∀ report group, Bills report group → ofReport report = ofGroup group) :
    ledger.map ofReport = billed.map ofGroup := by
  rw [← List.forall₂_eq_eq_eq, List.forall₂_map_left_iff, List.forall₂_map_right_iff]
  exact bills.imp agree

namespace Books

variable {α : Type} {books : Books} {waiting : List UsageGroup}

def usage (books : Books) : List UsageRow := books.service.store.usage

def Distinct (books : Books) : Prop := (books.usage.map (·.id)).Nodup

/-- What has been read and billed agrees with the rows, and the ledger with what has been billed. -/
structure Sound (books : Books) : Prop where
  rows : Reporting.Sound books.usage books.waiting books.billed
  bills : List.Forall₂ Bills books.ledger books.billed

theorem meet_usage (books : Books) (changes : List Change) :
    ∃ more, (books.meet changes).usage = books.usage ++ more := by
  unfold meet usage
  dsimp only
  generalize books.service = service
  induction changes generalizing service with
  | nil => exact ⟨[], (List.append_nil _).symm⟩
  | cons change changes ih =>
      obtain ⟨first, changed⟩ := change_usage service change
      obtain ⟨rest, ended⟩ := ih (service.change change)
      exact ⟨first ++ rest, by rw [List.foldl_cons, ended, changed, List.append_assoc]⟩

theorem Sound.meet (sound : books.Sound) (changes : List Change)
    (distinct : (books.meet changes).Distinct) : (books.meet changes).Sound := by
  obtain ⟨more, usage⟩ := books.meet_usage changes
  refine ⟨?_, sound.bills⟩
  rw [Distinct, usage] at distinct
  rw [usage]
  exact sound.rows.append more distinct

theorem idempotencyKey_congr {group other : UsageGroup} (same : group.rowIds = other.rowIds) :
    group.idempotencyKey = other.idempotencyKey := by
  simp [UsageGroup.idempotencyKey, UsageGroup.keyOctets, same]

theorem Sound.book (sound : books.Sound) (distinct : books.Distinct)
    {report : Provider.UsageReport} {group : UsageGroup} (first : books.waiting.head? = some group)
    (bills : Bills report group) : (books.book report).Sound := by
  by_cases repeated : Repeats books.ledger report
  · refine ⟨?_, ?_⟩ <;> simp only [Books.book, repeated, if_true]
    · exact sound.rows
    · exact sound.bills
  · obtain ⟨rest, waiting⟩ := List.head?_eq_some_iff.mp first
    have fresh : ∀ other ∈ books.billed, other.rowIds ≠ group.rowIds := by
      intro other member same
      have keys := map_eq_of_bills sound.bills fun _ _ billed => billed.key
      apply repeated
      unfold Repeats
      rw [bills.key, keys, ← idempotencyKey_congr same]
      exact ⟨rfl, List.mem_map.mpr ⟨other, member, rfl⟩⟩
    have taken : books.waiting.take 1 = [group] := by simp [waiting]
    refine ⟨?_, ?_⟩ <;> simp only [Books.book, repeated, if_false, taken]
    · exact sound.rows.bill distinct (by simp [waiting]) fresh
    · exact List.rel_append sound.bills (.cons bills .nil)

theorem ask_frame (books : Books) (turn : Turn) (call : Provider.Call) :
    (books.ask turn call).usage = books.usage ∧ (books.ask turn call).waiting = books.waiting := by
  unfold Books.ask
  split
  · split <;> exact ⟨rfl, rfl⟩
  · exact ⟨rfl, rfl⟩

theorem Sound.ask (sound : books.Sound) (distinct : books.Distinct) (turn : Turn)
    (call : Provider.Call) (permitted : Permitted books.waiting (.ask call)) :
    (books.ask turn call).Sound := by
  have noted : ∀ call, (books.note call).Sound := fun call => ⟨sound.rows, sound.bills⟩
  unfold Books.ask
  split
  · obtain ⟨group, first, bills⟩ := permitted
    split
    · exact (noted _).book distinct first bills
    · exact noted _
  · exact noted _

theorem perform_own (books : Books) (turn : Turn) (action : Action)
    (own : ∀ call, action ≠ .ask call) :
    books.perform turn action = ((books.service.perform action).1,
      { books with
        service := (books.service.perform action).2
        waiting := stillWaiting books.waiting action (books.service.perform action).1 }) := by
  cases action <;> first | rfl | exact absurd rfl (own _)

/-- No action of a pass writes rows, and it is known what waits after it. -/
theorem perform_frame (books : Books) (turn : Turn) (action : Action)
    (permitted : Permitted books.waiting action) :
    (books.perform turn action).2.usage.map UsageRow.content = books.usage.map UsageRow.content ∧
    (books.perform turn action).2.waiting =
      stillWaiting books.waiting action (books.perform turn action).1 := by
  by_cases asks : ∃ call, action = .ask call
  · obtain ⟨call, rfl⟩ := asks
    obtain ⟨usage, waiting⟩ := books.ask_frame turn call
    exact ⟨congrArg (List.map UsageRow.content) usage, waiting⟩
  · have keeps := Service.keepsUsage_perform books.service action
      (by rintro key quantity rfl; exact permitted) (by rintro rfl; exact permitted)
    rw [perform_own books turn action fun call same => asks ⟨call, same⟩]
    exact ⟨keeps.store.contents, rfl⟩

theorem stillWaiting_sublist (waiting : List UsageGroup) (action : Action) (reply : action.Reply)
    (reads : action ≠ .unreportedUsage) : (stillWaiting waiting action reply).Sublist waiting := by
  unfold stillWaiting
  split
  · exact absurd rfl reads
  · exact absurd rfl reads
  · exact List.tail_sublist waiting
  · exact List.Sublist.refl waiting

theorem Sound.perform (sound : books.Sound) (distinct : books.Distinct) (turn : Turn)
    (action : Action) (permitted : Permitted books.waiting action) :
    (books.perform turn action).2.Sound := by
  by_cases asks : ∃ call, action = .ask call
  · obtain ⟨call, rfl⟩ := asks
    exact sound.ask distinct turn call permitted
  rw [perform_own books turn action fun call same => asks ⟨call, same⟩]
  refine ⟨?_, sound.bills⟩
  by_cases reads : action = .unreportedUsage
  · subst reads
    simp only [Service.perform, Store.unreportedUsage]
    cases down : books.service.store.isDown .unreportedUsage with
    | true =>
        rw [Store.guarded_error down]
        exact sound.rows.fewer (List.nil_sublist _)
    | false =>
        rw [Store.guarded_ok down]
        exact sound.rows.read
  have part := stillWaiting_sublist books.waiting action (books.service.perform action).1 reads
  apply Reporting.Sound.fewer _ part
  by_cases marks : ∃ ids usageId, action = .markReported ids usageId
  · obtain ⟨ids, usageId, rfl⟩ := marks
    obtain ⟨group, first, rfl⟩ := permitted
    simp only [usage, Service.perform, Service.onStore, Store.markReported]
    cases down : books.service.store.isDown .markReported with
    | true =>
        rw [Store.guarded_error down]
        exact sound.rows
    | false =>
        rw [Store.guarded_ok down]
        exact sound.rows.mark distinct (List.mem_of_head? first) usageId books.service.clock
  · have same := Service.usage_perform books.service action
      (by rintro key quantity rfl; exact permitted) (by rintro rfl; exact permitted)
      (by rintro ids usageId rfl; exact marks ⟨ids, usageId, rfl⟩)
    simp only [usage, same]
    exact sound.rows

theorem follow_grows (program : Program α) (turns : List Turn) (books : Books)
    (settles : Settles program books.waiting) : books.usage.map UsageRow.content <+:
      (books.follow program turns).usage.map UsageRow.content := by
  induction program generalizing turns books with
  | done result => exact List.prefix_refl _
  | step action next ih =>
      cases turns with
      | nil => exact List.prefix_refl _
      | cons turn turns =>
          obtain ⟨more, met⟩ := books.meet_usage turn.changes
          obtain ⟨kept, waits⟩ := (books.meet turn.changes).perform_frame turn action settles.1
          have rest := ih ((books.meet turn.changes).perform turn action).1 turns
            ((books.meet turn.changes).perform turn action).2 (waits ▸ settles.2 _)
          rw [kept, met, List.map_append] at rest
          exact (List.prefix_append _ _).trans rest

theorem Distinct.of_grows {after : Books} (distinct : after.Distinct)
    (grows : books.usage.map UsageRow.content <+: after.usage.map UsageRow.content) :
    books.Distinct := by
  have ids : ∀ books : Books, books.usage.map (·.id) =
      (books.usage.map UsageRow.content).map (·.1) := by
    intro books
    rw [List.map_map]
    rfl
  unfold Distinct at *
  rw [ids] at distinct ⊢
  exact (grows.sublist.map _).nodup distinct

theorem follow_sound (program : Program α) (turns : List Turn) (books : Books)
    (settles : Settles program books.waiting) (sound : books.Sound)
    (distinct : (books.follow program turns).Distinct) : (books.follow program turns).Sound := by
  induction program generalizing turns books with
  | done result => exact sound
  | step action next ih =>
      cases turns with
      | nil => exact sound
      | cons turn turns =>
          obtain ⟨kept, waits⟩ := (books.meet turn.changes).perform_frame turn action settles.1
          have inside : Settles (next ((books.meet turn.changes).perform turn action).1)
              ((books.meet turn.changes).perform turn action).2.waiting := waits ▸ settles.2 _
          have performed := distinct.of_grows (follow_grows _ turns _ inside)
          have met : (books.meet turn.changes).Distinct :=
            performed.of_grows (kept ▸ List.prefix_refl _)
          exact ih _ turns _ inside
            ((sound.meet turn.changes met).perform met turn action settles.1) distinct

theorem run_grows (books : Books) (passes : List (List Turn)) :
    books.usage.map UsageRow.content <+: (books.run passes).usage.map UsageRow.content := by
  induction passes generalizing books with
  | nil => exact List.prefix_refl _
  | cons turns passes ih =>
      exact (follow_grows _ turns books (settles_pass _)).trans (ih _)

theorem run_sound (passes : List (List Turn)) (sound : books.Sound)
    (distinct : (books.run passes).Distinct) : (books.run passes).Sound := by
  induction passes generalizing books with
  | nil => exact sound
  | cons turns passes ih =>
      have followed := distinct.of_grows (run_grows _ passes)
      exact ih (follow_sound _ turns books (settles_pass _) sound followed) distinct

end Books

theorem exists_gathered {usage : List UsageRow} {billed : List UsageGroup}
    (distinct : (usage.map UsageRow.content).Nodup)
    (amounts : ∀ content ∈ usage.map UsageRow.content, 0 ≤ content.2.2)
    (described : ∀ group ∈ billed, Describes usage group)
    (separate : billed.Pairwise fun group later => group.rowIds.Disjoint later.rowIds) :
    ∃ rows : List (Uuid × GroupKey × Int), rows.Nodup ∧ rows ⊆ usage.map UsageRow.content ∧
      (∀ content ∈ rows, ∃ group ∈ billed, content.1 ∈ group.rowIds) ∧
      (billed.map (·.quantity)).sum ≤ (rows.map fun content => content.2.2).sum := by
  induction billed with
  | nil => exact ⟨[], List.nodup_nil, List.nil_subset _, by simp, le_rfl⟩
  | cons group billed ih =>
      obtain ⟨apart, separateRest⟩ := List.pairwise_cons.mp separate
      obtain ⟨rows, rowsNodup, inside, owned, bound⟩ :=
        ih (fun other member => described other (List.mem_cons_of_mem _ member)) separateRest
      obtain ⟨own, part, _, ids, _, quantity⟩ := described group List.mem_cons_self
      have ownNonneg : ∀ amount ∈ own.map fun content => content.2.2, 0 ≤ amount := by
        intro amount member
        obtain ⟨content, found, rfl⟩ := List.mem_map.mp member
        exact amounts content (part.subset found)
      -- The groups are apart, so no row is gathered twice.
      refine ⟨own ++ rows, ?_, ?_, ?_, ?_⟩
      · refine List.nodup_append.mpr ⟨part.nodup distinct, rowsNodup, ?_⟩
        rintro content left other right rfl
        obtain ⟨later, member, shared⟩ := owned content right
        exact apart later member (ids ▸ List.mem_map_of_mem left) shared
      · exact List.append_subset.mpr ⟨part.subset, inside⟩
      · intro content member
        rcases List.mem_append.mp member with left | right
        · exact ⟨group, List.mem_cons_self, ids ▸ List.mem_map_of_mem left⟩
        · obtain ⟨later, listed, shared⟩ := owned content right
          exact ⟨later, List.mem_cons_of_mem _ listed, shared⟩
      · have capped := Quantity.sum_of_nonneg _ ownNonneg
        rw [List.map_cons, List.sum_cons, List.map_append, List.sum_append, quantity]
        omega

theorem sum_quantity_le {usage : List UsageRow} {billed : List UsageGroup}
    (distinct : (usage.map (·.id)).Nodup) (nonneg : ∀ row ∈ usage, 0 ≤ row.quantity)
    (described : ∀ group ∈ billed, Describes usage group)
    (separate : billed.Pairwise fun group later => group.rowIds.Disjoint later.rowIds) :
    (billed.map (·.quantity)).sum ≤ (usage.map (·.quantity)).sum := by
  have contents : (usage.map UsageRow.content).Nodup := by
    apply List.Nodup.of_map (fun content => content.1)
    rwa [List.map_map]
  have amounts : ∀ content ∈ usage.map UsageRow.content, 0 ≤ content.2.2 := by
    intro content member
    obtain ⟨row, present, rfl⟩ := List.mem_map.mp member
    exact nonneg row present
  obtain ⟨rows, rowsNodup, inside, _, bound⟩ := exists_gathered contents amounts described separate
  obtain ⟨ordered, perm, part⟩ := List.subperm_of_subset rowsNodup inside
  calc
    (billed.map (·.quantity)).sum ≤ (rows.map fun content => content.2.2).sum := bound
    _ = (ordered.map fun content => content.2.2).sum := (perm.map _).sum_eq.symm
    _ ≤ ((usage.map UsageRow.content).map fun content => content.2.2).sum := by
      apply (part.map _).sum_le_sum
      intro amount member
      obtain ⟨content, found, rfl⟩ := List.mem_map.mp member
      exact amounts content found
    _ = (usage.map (·.quantity)).sum := by rw [List.map_map]; rfl

/-- The row is in two groups whose amounts were added. -/
def Books.BilledTwice (books : Books) (id : Uuid) : Prop :=
  ∃ group later, [group, later].Sublist books.billed ∧ id ∈ group.rowIds ∧ id ∈ later.rowIds

/-- What the ledger holds after any run of passes, cut short anywhere, with usage written at any time.
Each amount in it is that of one group. A row is billed twice exactly if its group was billed, grew by
rows that were written later, and was billed again. Where that has not happened no row is billed twice,
and the ledger holds no more than the rows. -/
theorem billedTwice_iff_grown (service : Service) (passes : List (List Turn))
    (distinct : (booksAfter service passes).Distinct)
    (nonneg : ∀ row ∈ (booksAfter service passes).usage, 0 ≤ row.quantity) :
    List.Forall₂ Bills (booksAfter service passes).ledger (booksAfter service passes).billed ∧
    (∀ id, (booksAfter service passes).BilledTwice id ↔ ∃ group grown,
      [group, grown].Sublist (booksAfter service passes).billed ∧
        Grown group grown ∧ id ∈ group.rowIds) ∧
    ((∀ group grown, [group, grown].Sublist (booksAfter service passes).billed →
        ¬ Grown group grown) →
      (∀ id, ¬ (booksAfter service passes).BilledTwice id) ∧
        (booksAfter service passes).total ≤
          ((booksAfter service passes).usage.map (·.quantity)).sum) := by
  have start : Books.Sound { service } := ⟨.start _, .nil⟩
  obtain ⟨rows, bills⟩ : (booksAfter service passes).Sound := Books.run_sound passes start distinct
  have grown : ∀ group later, [group, later].Sublist (booksAfter service passes).billed →
      (∃ id, id ∈ group.rowIds ∧ id ∈ later.rowIds) → Grown group later :=
    fun group later part => List.pairwise_iff_forall_sublist.mp rows.grown part
  refine ⟨bills, ?_, ?_⟩
  · intro id
    constructor
    · rintro ⟨group, later, part, left, right⟩
      exact ⟨group, later, part, grown group later part ⟨id, left, right⟩, left⟩
    · rintro ⟨group, later, part, grows, left⟩
      exact ⟨group, later, part, left, grows.2.1.subset left⟩
  · intro never
    have apart : ∀ group later, [group, later].Sublist (booksAfter service passes).billed →
        group.rowIds.Disjoint later.rowIds := by
      intro group later part id left right
      exact never group later part (grown group later part ⟨id, left, right⟩)
    constructor
    · rintro id ⟨group, later, part, left, right⟩
      exact apart group later part left right
    · have separate : (booksAfter service passes).billed.Pairwise
          fun group later => group.rowIds.Disjoint later.rowIds :=
        List.pairwise_iff_forall_sublist.mpr fun {group later} part => apart group later part
      unfold Books.total
      rw [map_eq_of_bills bills fun _ _ billed => billed.quantity]
      exact sum_quantity_le distinct nonneg (fun group member => rows.described group (.inr member))
        separate

/-- Five units are billed and not marked, and seven more come before the next pass. -/
def grownPasses : List (List Turn) :=
  [⟨[.write [(⟨1⟩, ⟨.zero, .testRuns, 5, november⟩)], .switch .markReported true], metered, false⟩ ::
      List.replicate 8 { answer := metered },
    ⟨[.switch .markReported false, .write [(⟨2⟩, ⟨.zero, .testRuns, 7, november⟩)]], metered, false⟩ ::
      List.replicate 8 { answer := metered }]

def subscribed : Service :=
  { clock := ⟨1700000000, 0⟩
    store := { subscriptions :=
      [{ Subscription.freeTier .zero .zero ⟨1700000000, 0⟩ with providerId := some "sub_1" }] } }

def sampleGroup (quantity : Int) (ids : List Uuid) : UsageGroup :=
  ⟨.zero, Metric.testRuns.name, november, quantity, ids⟩

def sampleReport (group : UsageGroup) : Provider.UsageReport :=
  ⟨"si_1", group.quantity, 1700000000, .increment, some group.idempotencyKey⟩

theorem sample_keys_ne : (sampleGroup 5 [⟨1⟩]).idempotencyKey ≠
    (sampleGroup 12 [⟨1⟩, ⟨2⟩]).idempotencyKey := by
  have first : (sampleGroup 5 [⟨1⟩]).keyOctets = (Uuid.mk 1).octets := by cbv
  have second : (sampleGroup 12 [⟨1⟩, ⟨2⟩]).keyOctets =
      (Uuid.mk 1).octets ++ (Uuid.mk 2).octets := by cbv
  unfold UsageGroup.idempotencyKey
  rw [first, second]
  decide +kernel

theorem sample_not_repeats :
    ¬ Repeats [sampleReport (sampleGroup 5 [⟨1⟩])] (sampleReport (sampleGroup 12 [⟨1⟩, ⟨2⟩])) := by
  rintro ⟨_, member⟩
  simp only [List.map_cons, List.map_nil, List.mem_singleton] at member
  exact sample_keys_ne (Option.some.inj member).symm

/-- Seventeen units are billed for twelve. -/
theorem billedTwice_iff_grown_grownPasses :
    (booksAfter subscribed grownPasses).Distinct ∧
    (∀ row ∈ (booksAfter subscribed grownPasses).usage, 0 ≤ row.quantity) ∧
    (booksAfter subscribed grownPasses).BilledTwice ⟨1⟩ ∧
    (booksAfter subscribed grownPasses).total = 17 ∧
    ((booksAfter subscribed grownPasses).usage.map (·.quantity)).sum = 12 := by
  have distinct : (booksAfter subscribed grownPasses).Distinct := by
    unfold Books.Distinct
    decide +kernel
  have nonneg : ∀ row ∈ (booksAfter subscribed grownPasses).usage, 0 ≤ row.quantity := by
    decide +kernel
  have ledger : (booksAfter subscribed grownPasses).ledger =
      [sampleReport (sampleGroup 5 [⟨1⟩]), sampleReport (sampleGroup 12 [⟨1⟩, ⟨2⟩])] :=
    if_neg sample_not_repeats
  have billed : (booksAfter subscribed grownPasses).billed =
      [sampleGroup 5 [⟨1⟩], sampleGroup 12 [⟨1⟩, ⟨2⟩]] := if_neg sample_not_repeats
  have grown : Grown (sampleGroup 5 [⟨1⟩]) (sampleGroup 12 [⟨1⟩, ⟨2⟩]) :=
    ⟨rfl, ⟨[⟨2⟩], rfl⟩, by simp [sampleGroup]⟩
  refine ⟨distinct, nonneg, ?_, ?_, by decide +kernel⟩
  · refine ((billedTwice_iff_grown subscribed grownPasses distinct nonneg).2.1 ⟨1⟩).mpr ?_
    exact ⟨_, _, billed ▸ List.Sublist.refl _, grown, by simp [sampleGroup]⟩
  · rw [Books.total, ledger]
    rfl

end Reporting

end UsageBilling
