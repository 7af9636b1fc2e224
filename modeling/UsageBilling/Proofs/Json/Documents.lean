import UsageBilling.Proofs.Json.Acceptance
import UsageBilling.Proofs.Json.Records
import UsageBilling.Provider.Records
/-!
Subscriptions and invoices as documents. What is written for one of them is read back as the same,
and so is whatever was accepted as one of them once it is written again.
-/
namespace UsageBilling

open Json

namespace Subscription

/-- All times of the row are representable, and the reader can hold its metadata: of the levels there
are, the record takes one, and the last one is never opened. -/
structure Representable (row : Subscription) : Prop where
  billingAnchor : ∀ time ∈ row.billingAnchor, time.Representable
  periodStart : ∀ time ∈ row.periodStart, time.Representable
  periodEnd : ∀ time ∈ row.periodEnd, time.Representable
  trialStart : ∀ time ∈ row.trialStart, time.Representable
  trialEnd : ∀ time ∈ row.trialEnd, time.Representable
  cancelAt : ∀ time ∈ row.cancelAt, time.Representable
  canceledAt : ∀ time ∈ row.canceledAt, time.Representable
  createdAt : row.createdAt.Representable
  updatedAt : row.updatedAt.Representable
  metadata : ∀ value ∈ row.metadata, Readable (fullDepth - 2) value

theorem representable_start : (freeTier .zero .zero ⟨0, 0⟩).Representable where
  billingAnchor := by decide
  periodStart := by decide
  periodEnd := by decide
  trialStart := nofun
  trialEnd := nofun
  cancelAt := nofun
  canceledAt := nofun
  createdAt := by decide
  updatedAt := by decide
  metadata := nofun

def Exact (row : Subscription) : Prop := ∀ value ∈ row.metadata, Whole value

/-- Metadata of null are written like metadata that are absent. -/
theorem reads_toJson {row : Subscription} (representable : row.Representable) (numbers : row.Exact) :
    Reads reader 127 row.toJson { row with metadata := row.metadata.filter (· ≠ .null) } := by
  apply reads_record
  · refine
      .cons ((reads_uuid row.id).map _) <|
      .cons ((reads_uuid row.tenant).map _) <|
      .cons ((reads_text? row.customerId).map _) <|
      .cons ((reads_text? row.providerId).map _) <|
      .cons ((reads_text? row.priceId).map _) <|
      .cons ((reads_string row.plan).map _) <|
      .cons ((reads_string row.status).map _) <|
      .cons ((reads_instant? representable.billingAnchor).map _) <|
      .cons ((reads_instant? representable.periodStart).map _) <|
      .cons ((reads_instant? representable.periodEnd).map _) <|
      .cons ((reads_instant? representable.trialStart).map _) <|
      .cons ((reads_instant? representable.trialEnd).map _) <|
      .cons ((reads_instant? representable.cancelAt).map _) <|
      .cons ((reads_instant? representable.canceledAt).map _) <|
      .cons ((reads_boolean row.cancelAtPeriodEnd).map _) <|
      .cons ((reads_text? row.paymentMethodId).map _) <|
      .cons ((reads_value? representable.metadata numbers).map _) <|
      .cons ((reads_instant representable.createdAt).map _) <|
      .cons ((reads_instant representable.updatedAt).map _) <|
      .nil _
  · decide

/-- A row as it is accepted: its metadata are not null, since null stands for none. -/
structure Accepted (row : Subscription) : Prop extends row.Representable where
  present : ∀ value ∈ row.metadata, value ≠ .null

theorem filter_metadata {row : Subscription} (present : row.metadata ≠ some .null) :
    row.metadata.filter (· ≠ .null) = row.metadata := by
  cases held : row.metadata with
  | none => rfl
  | some value =>
      have other : value ≠ .null := by
        rintro rfl
        exact present held
      exact Option.filter_some_pos (decide_eq_true other)

theorem fields_keep : ∀ field ∈ fields, field.Keeps Accepted 127 := by
  have anything {α : Type} (read : Reader α) : Gives read 127 fun _ => True := gives_anything read
  have time : Gives Reader.instant 127 Instant.Representable := gives_instant
  simp only [fields, List.forall_mem_cons, List.not_mem_nil, false_imp_iff, implies_true, and_true]
  refine ⟨?_, ?_, ?_, ?_, ?_, ?_, ?_, ?_, ?_, ?_, ?_, ?_, ?_, ?_, ?_, ?_, ?_, ?_, ?_⟩
  · exact (anything _).keeps _ _ _ fun _ _ _ row => { row with }
  · exact (anything _).keeps _ _ _ fun _ _ _ row => { row with }
  · exact (anything _).keeps _ _ _ fun _ _ _ row => { row with }
  · exact (anything _).keeps _ _ _ fun _ _ _ row => { row with }
  · exact (anything _).keeps _ _ _ fun _ _ _ row => { row with }
  · exact (anything _).keeps _ _ _ fun _ _ _ row => { row with }
  · exact (anything _).keeps _ _ _ fun _ _ _ row => { row with }
  · exact time.optional.keeps _ _ _ fun _ _ given row => { row with billingAnchor := given }
  · exact time.optional.keeps _ _ _ fun _ _ given row => { row with periodStart := given }
  · exact time.optional.keeps _ _ _ fun _ _ given row => { row with periodEnd := given }
  · exact time.optional.keeps _ _ _ fun _ _ given row => { row with trialStart := given }
  · exact time.optional.keeps _ _ _ fun _ _ given row => { row with trialEnd := given }
  · exact time.optional.keeps _ _ _ fun _ _ given row => { row with cancelAt := given }
  · exact time.optional.keeps _ _ _ fun _ _ given row => { row with canceledAt := given }
  · exact (anything _).keeps _ _ _ fun _ _ _ row => { row with }
  · exact (anything _).keeps _ _ _ fun _ _ _ row => { row with }
  · exact gives_value?.keeps _ _ _ fun _ _ given row =>
      { row with
        metadata := fun value member => (given value member).1
        present := fun value member => (given value member).2 }
  · exact time.keeps _ _ _ fun _ _ given row => { row with createdAt := given }
  · exact time.keeps _ _ _ fun _ _ given row => { row with updatedAt := given }

theorem accepted_of_run {text : List UInt8} {row : Subscription} (read : reader.run text = .ok row) :
    row.Accepted := by
  refine (record_keeps fields_keep ?_).run read
  exact
    { billingAnchor := nofun, periodStart := nofun, periodEnd := nofun, trialStart := nofun
      trialEnd := nofun, cancelAt := nofun, canceledAt := nofun, createdAt := by decide
      updatedAt := by decide, metadata := nofun, present := nofun }

end Subscription

namespace Provider.Invoice

structure Representable (invoice : Invoice) : Prop where
  amountDue : Quantity.InRange invoice.amountDue
  amountPaid : Quantity.InRange invoice.amountPaid
  amountRemaining : Quantity.InRange invoice.amountRemaining
  subtotal : Quantity.InRange invoice.subtotal
  total : Quantity.InRange invoice.total
  tax : ∀ amount ∈ invoice.tax, Quantity.InRange amount
  periodStart : ∀ second ∈ invoice.periodStart, Quantity.InRange second
  periodEnd : ∀ second ∈ invoice.periodEnd, Quantity.InRange second
  created : ∀ second ∈ invoice.created, Quantity.InRange second
  dueDate : ∀ second ∈ invoice.dueDate, Quantity.InRange second

theorem reads_toJson {invoice : Invoice} (representable : invoice.Representable) :
    Reads reader 127 invoice.toJson invoice := by
  apply reads_record
  · refine
      .cons ((reads_text? invoice.id).map _) <|
      .cons ((reads_text? invoice.customer).map _) <|
      .cons ((reads_text? invoice.subscription).map _) <|
      .cons ((reads_text? invoice.status).map _) <|
      .cons ((reads_text? invoice.number).map _) <|
      .cons ((reads_string invoice.currency).map _) <|
      .cons ((reads_signed64 representable.amountDue).map _) <|
      .cons ((reads_signed64 representable.amountPaid).map _) <|
      .cons ((reads_signed64 representable.amountRemaining).map _) <|
      .cons ((reads_signed64 representable.subtotal).map _) <|
      .cons ((reads_signed64 representable.total).map _) <|
      .cons ((reads_signed64? representable.tax).map _) <|
      .cons ((reads_signed64? representable.periodStart).map _) <|
      .cons ((reads_signed64? representable.periodEnd).map _) <|
      .cons ((reads_signed64? representable.created).map _) <|
      .cons ((reads_signed64? representable.dueDate).map _) <|
      .cons ((reads_boolean invoice.paid).map _) <|
      .cons ((reads_text? invoice.hostedInvoiceUrl).map _) <|
      .cons ((reads_text? invoice.invoicePdf).map _) <|
      .nil _
  · decide

theorem fields_keep : ∀ field ∈ fields, field.Keeps Representable 127 := by
  have anything {α : Type} (read : Reader α) : Gives read 127 fun _ => True := gives_anything read
  have amount : Gives Reader.signed64 127 Quantity.InRange := gives_signed64
  simp only [fields, List.forall_mem_cons, List.not_mem_nil, false_imp_iff, implies_true, and_true]
  refine ⟨?_, ?_, ?_, ?_, ?_, ?_, ?_, ?_, ?_, ?_, ?_, ?_, ?_, ?_, ?_, ?_, ?_, ?_, ?_⟩
  · exact (anything _).keeps _ _ _ fun _ _ _ invoice => { invoice with }
  · exact (anything _).keeps _ _ _ fun _ _ _ invoice => { invoice with }
  · exact (anything _).keeps _ _ _ fun _ _ _ invoice => { invoice with }
  · exact (anything _).keeps _ _ _ fun _ _ _ invoice => { invoice with }
  · exact (anything _).keeps _ _ _ fun _ _ _ invoice => { invoice with }
  · exact (anything _).keeps _ _ _ fun _ _ _ invoice => { invoice with }
  · exact amount.keeps _ _ _ fun _ _ given invoice => { invoice with amountDue := given }
  · exact amount.keeps _ _ _ fun _ _ given invoice => { invoice with amountPaid := given }
  · exact amount.keeps _ _ _ fun _ _ given invoice => { invoice with amountRemaining := given }
  · exact amount.keeps _ _ _ fun _ _ given invoice => { invoice with subtotal := given }
  · exact amount.keeps _ _ _ fun _ _ given invoice => { invoice with total := given }
  · exact amount.optional.keeps _ _ _ fun _ _ given invoice => { invoice with tax := given }
  · exact amount.optional.keeps _ _ _ fun _ _ given invoice => { invoice with periodStart := given }
  · exact amount.optional.keeps _ _ _ fun _ _ given invoice => { invoice with periodEnd := given }
  · exact amount.optional.keeps _ _ _ fun _ _ given invoice => { invoice with created := given }
  · exact amount.optional.keeps _ _ _ fun _ _ given invoice => { invoice with dueDate := given }
  · exact (anything _).keeps _ _ _ fun _ _ _ invoice => { invoice with }
  · exact (anything _).keeps _ _ _ fun _ _ _ invoice => { invoice with }
  · exact (anything _).keeps _ _ _ fun _ _ _ invoice => { invoice with }

theorem representable_of_run {text : List UInt8} {invoice : Invoice}
    (read : reader.run text = .ok invoice) : invoice.Representable := by
  refine (record_keeps fields_keep ?_).run read
  exact
    { amountDue := by decide, amountPaid := by decide, amountRemaining := by decide
      subtotal := by decide, total := by decide, tax := nofun, periodStart := nofun
      periodEnd := nofun, created := nofun, dueDate := nofun }

end Provider.Invoice

/-- Rows and invoices come back as they were written, as long as the metadata of a row hold no reals;
null metadata are written like none and come back as none. Whatever is accepted can be written, so it
comes back as well. -/
theorem documents_read_back :
    (∀ row : Subscription, row.Representable → row.Exact →
      (row.metadata ≠ some .null → Subscription.reader.run (render row.toJson) = .ok row) ∧
      (row.metadata = some .null →
        Subscription.reader.run (render row.toJson) = .ok { row with metadata := none })) ∧
    (∀ invoice : Provider.Invoice, invoice.Representable →
      Provider.Invoice.reader.run (render invoice.toJson) = .ok invoice) ∧
    (∀ text row, Subscription.reader.run text = .ok row → row.Representable ∧
      (row.Exact → Subscription.reader.run (render row.toJson) = .ok row)) ∧
    ∀ text invoice, Provider.Invoice.reader.run text = .ok invoice → invoice.Representable ∧
      Provider.Invoice.reader.run (render invoice.toJson) = .ok invoice := by
  refine ⟨fun row representable numbers => ?_, fun invoice representable => ?_, fun text row read => ?_,
    fun text invoice read => ?_⟩
  · have run := (Subscription.reads_toJson representable numbers).run
    constructor
    · intro present
      rwa [Subscription.filter_metadata present] at run
    · intro null
      rw [null] at run
      exact run
  · exact (Provider.Invoice.reads_toJson representable).run
  · have accepted := Subscription.accepted_of_run read
    refine ⟨accepted.toRepresentable, fun numbers => ?_⟩
    have run := (Subscription.reads_toJson accepted.toRepresentable numbers).run
    rwa [Subscription.filter_metadata fun null => accepted.present _ null rfl] at run
  · have representable := Provider.Invoice.representable_of_run read
    exact ⟨representable, (Provider.Invoice.reads_toJson representable).run⟩

/-- Not every row comes back: one whose metadata are null comes back without any. -/
theorem null_metadata_lost :
    let row : Subscription := { Subscription.freeTier .zero .zero ⟨0, 0⟩ with metadata := some .null }
    row.Representable ∧ row.Exact ∧
      Subscription.reader.run (render row.toJson) = .ok { row with metadata := none } ∧
      Subscription.reader.run (render row.toJson) ≠ .ok row := by
  intro row
  have representable : row.Representable :=
    { Subscription.representable_start with
      metadata := fun value member => Option.some.inj member ▸ .null }
  have numbers : row.Exact := fun value member => Option.some.inj member ▸ .null
  have run : Subscription.reader.run (render row.toJson) = .ok { row with metadata := none } :=
    (Subscription.reads_toJson representable numbers).run
  refine ⟨representable, numbers, run, fun same => ?_⟩
  have metadata := congrArg Subscription.metadata (Except.ok.inj (run.symm.trans same))
  exact Option.some_ne_none _ metadata.symm

/-- A leap second of the year -1, a status with a line break, and the greatest number in an array of
the metadata; and an invoice of the least total. -/
theorem documents_read_back_leapSecond :
    ∃ (row : Subscription) (invoice : Provider.Invoice),
      row.status = "on\nhold" ∧ row.updatedAt = ⟨-62167219201, 1999999999⟩ ∧
      row.metadata = some (.obj [("deep", .arr [.null, .int 18446744073709551615])]) ∧
      invoice.total = Quantity.least ∧
      Subscription.reader.run (render row.toJson) = .ok row ∧
      Subscription.reader.run (render { row with metadata := some .null }.toJson) =
        .ok { row with metadata := none } ∧
      Provider.Invoice.reader.run (render invoice.toJson) = .ok invoice ∧
      Provider.Invoice.reader.run (ascii ['{', '}']) = .ok {} ∧
      Provider.Invoice.reader.run (render (Provider.Invoice.toJson {})) = .ok {} := by
  obtain ⟨rows, invoices, rowsAgain, invoicesAgain⟩ := documents_read_back
  have readable : Readable (fullDepth - 2) (.obj [("deep", .arr [.null, .int 18446744073709551615])]) :=
    .obj (List.pairwise_singleton _ _) <| List.forall_mem_singleton.mpr <| .arr <|
      List.forall_mem_cons.mpr ⟨.null, List.forall_mem_singleton.mpr (.int (by decide))⟩
  have whole : Whole (.obj [("deep", .arr [.null, .int 18446744073709551615])]) :=
    .obj <| List.forall_mem_singleton.mpr <| .arr <|
      List.forall_mem_cons.mpr ⟨.null, List.forall_mem_singleton.mpr (.int _)⟩
  let row : Subscription := { Subscription.freeTier .zero .zero ⟨0, 0⟩ with
    status := "on\nhold"
    metadata := some (.obj [("deep", .arr [.null, .int 18446744073709551615])])
    updatedAt := ⟨-62167219201, 1999999999⟩ }
  have representable : row.Representable :=
    { Subscription.representable_start with
      updatedAt := by decide
      metadata := fun value member => Option.some.inj member ▸ readable }
  have run := (rows row representable fun value member => Option.some.inj member ▸ whole).1 nofun
  have null := (rows { row with metadata := some .null }
    { representable with metadata := fun value member => Option.some.inj member ▸ .null }
    fun value member => Option.some.inj member ▸ .null).2 rfl
  have empty : Provider.Invoice.reader.run (ascii ['{', '}']) = .ok {} := rfl
  have again := (rowsAgain _ row run).2 fun value member => Option.some.inj member ▸ whole
  refine ⟨row, { total := Quantity.least }, rfl, rfl, rfl, rfl, again, null, invoices _ ?_, empty,
    (invoicesAgain _ _ empty).2⟩
  exact { (invoicesAgain _ _ empty).1 with total := by decide }

end UsageBilling
