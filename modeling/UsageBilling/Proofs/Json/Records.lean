import UsageBilling.Proofs.Json.Values
import UsageBilling.Proofs.Text.Identifiers
import UsageBilling.Proofs.Time.Rfc3339
import UsageBilling.Subscription.Document
/-!
Records of JSON. A record is read from the object of its entries, as long as every field gives back
what was written for it.
-/
namespace UsageBilling.Json

variable {α β σ : Type} {levels : Nat}

/-- `read` gives back `value` from what is written for `written`, if it may open `levels` levels. -/
def Reads (read : Reader α) (levels : Nat) (written : Json) (value : α) : Prop :=
  ∀ rest, Stops rest → read (levels + 1) (render written ++ rest) = .ok (value, rest)

/-! ### Values of one kind -/

theorem reads_value {value : Json} (readable : Readable levels value) (whole : Whole value) :
    Reads Reader.value levels value value := by
  intro rest stops
  apply readsBack readable whole _ rest _ stops
  unfold fuelFor
  rw [List.length_append]
  omega

theorem reads_string (text : String) : Reads Reader.string levels (.str text) text := by
  intro rest stops
  rw [render, renderText_eq]
  exact orMalformed_closedText text rest

theorem reads_boolean (value : Bool) : Reads Reader.boolean levels (.bool value) value := by
  intro rest stops
  cases value with
  | true => rfl
  | false => rfl

theorem reads_integer {least greatest value : Int} (fits : FitsWord value)
    (bounds : least ≤ value ∧ value ≤ greatest) :
    Reads (Reader.integer least greatest) levels (.int value) value := by
  intro rest stops
  obtain ⟨octet, tail, begins, number⟩ := signedDigits_begins value
  have input := skipBlank_render (.int value) rest
  have read := readNumber?_signedDigits fits stops
  rw [render, begins, List.cons_append] at input
  rw [begins, List.cons_append] at read
  rw [render, begins, List.cons_append]
  unfold Reader.integer
  simp only [input, if_pos number, read, orMalformed, bind_ok, if_pos bounds]

theorem reads_signed64 {value : Int} (fits : Quantity.InRange value) :
    Reads Reader.signed64 levels (.int value) value :=
  reads_integer (.of_inRange fits) fits

theorem Reads.map {read : Reader α} {written : Json} {value : α}
    (reads : Reads read levels written value) (f : α → β) :
    Reads (read.map f) levels written (f value) := by
  intro rest stops
  unfold Reader.map
  rw [reads rest stops]

theorem Reads.filterMap {read : Reader α} {written : Json} {value : α} {f : α → Option β}
    {result : β} (reads : Reads read levels written value) (found : f value = some result) :
    Reads (read.filterMap f) levels written result := by
  intro rest stops
  unfold Reader.filterMap
  simp only [reads rest stops, found]

theorem reads_uuid (id : Uuid) : Reads Reader.uuid levels (ofUuid id) id :=
  (reads_string id.text).filterMap (Uuid.parse?_text id)

theorem reads_instant {instant : Instant} (representable : instant.Representable) :
    Reads Reader.instant levels (ofInstant instant) instant :=
  (reads_string instant.text).filterMap (Instant.parse?_text representable)

theorem reads_optional_null (read : Reader α) : Reads (Reader.optional read) levels .null none := by
  intro rest stops
  rfl

theorem Reads.optional {read : Reader α} {written : Json} {value : α}
    (reads : Reads read levels written value) (present : written ≠ .null) :
    Reads (Reader.optional read) levels written (some value) := by
  intro rest stops
  obtain ⟨octet, tail, begins, _, _, null⟩ := render_begins written
  unfold Reader.optional
  rw [skipBlank_render]
  split
  · next same =>
      rw [begins] at same
      exact absurd (null (List.cons.inj same).1) present
  · exact reads.map some rest stops

theorem reads_ofOption {read : Reader α} {write : α → Json} {value : Option α}
    (each : ∀ held ∈ value, Reads read levels (write held) held ∧ write held ≠ .null) :
    Reads (Reader.optional read) levels (ofOption write value) value := by
  cases value with
  | none => exact reads_optional_null read
  | some held => exact (each held rfl).1.optional (each held rfl).2

theorem str_ne_null (text : String) : Json.str text ≠ .null := by
  rintro ⟨⟩

theorem int_ne_null (number : Int) : Json.int number ≠ .null := by
  rintro ⟨⟩

theorem reads_text? (value : Option String) :
    Reads (Reader.optional Reader.string) levels (ofText? value) value :=
  reads_ofOption fun text _ => ⟨reads_string text, str_ne_null text⟩

theorem reads_instant? {value : Option Instant}
    (representable : ∀ instant ∈ value, instant.Representable) :
    Reads (Reader.optional Reader.instant) levels (ofOption ofInstant value) value :=
  reads_ofOption fun instant member => ⟨reads_instant (representable instant member), str_ne_null _⟩

theorem reads_signed64? {value : Option Int} (fits : ∀ number ∈ value, Quantity.InRange number) :
    Reads (Reader.optional Reader.signed64) levels (ofOption .int value) value :=
  reads_ofOption fun number member => ⟨reads_signed64 (fits number member), int_ne_null number⟩

/-- A value that is null is read as one that is left out. -/
theorem reads_value? {value : Option Json} (readable : ∀ held ∈ value, Readable levels held)
    (whole : ∀ held ∈ value, Whole held) :
    Reads (Reader.optional Reader.value) levels (value.getD .null) (value.filter (· ≠ .null)) := by
  cases value with
  | none => exact reads_optional_null _
  | some held =>
      by_cases null : held = .null
      · subst null
        exact reads_optional_null _
      · have kept : (some held).filter (· ≠ .null) = some held :=
          Option.filter_some_pos (decide_eq_true null)
        rw [kept]
        exact (reads_value (readable held rfl) (whole held rfl)).optional null

theorem Reads.run {read : Reader α} {written : Json} {value : α} (reads : Reads read 127 written value) :
    read.run (render written) = .ok value := by
  have whole := reads [] stops_nil
  rw [List.append_nil] at whole
  unfold Reader.run
  rw [fullDepth, whole]
  rfl

/-! ### Records as they are written -/

/-- Reading the values of `entries`, in this order, as those of `fields` turns `before` into
`after`. -/
inductive Written (levels : Nat) :
    (fields : List (RecordField σ)) → (entries : List (String × Json)) → (before after : σ) → Prop where
  | nil (record : σ) : Written levels [] [] record record
  | cons {field : RecordField σ} {fields : List (RecordField σ)} {value : Json}
      {entries : List (String × Json)} {set : σ → σ} {before after : σ}
      (reads : Reads field.read levels value set)
      (later : Written levels fields entries (set before) after) :
      Written levels (field :: fields) ((field.name, value) :: entries) before after

theorem find?_name {done later : List (RecordField σ)} {field : RecordField σ}
    (new : field.name ∉ done.map RecordField.name) :
    (done ++ field :: later).find? (·.name == field.name) = some field := by
  have before : done.find? (·.name == field.name) = none := by
    rw [List.find?_eq_none]
    intro other member same
    exact new (List.mem_map.mpr ⟨other, member, beq_iff_eq.mp same⟩)
  rw [List.find?_append, before, Option.none_or]
  exact List.find?_cons_of_pos (beq_self_eq_true field.name)

theorem entries_left {done fields : List (RecordField σ)} {written : List (String × Json)}
    {before after : σ} (reads : Written levels fields written before after)
    (unique : ((done ++ fields).map RecordField.name).Nodup) (first : Bool) (fuel : Nat)
    (rest : List UInt8) (enough : written.length < fuel) :
    Reader.entries (done ++ fields) fuel first (done.map RecordField.name).reverse before (levels + 1)
      (leftFields first written ++ 0x7d :: rest) = .ok (after, rest) := by
  induction reads generalizing done first fuel with
  | nil record =>
      obtain ⟨fuel, rfl⟩ := Nat.exists_eq_add_one_of_ne_zero (Nat.ne_zero_of_lt enough)
      have all : (done ++ []).all (fun field =>
          field.mayLack || (done.map RecordField.name).reverse.contains field.name) = true := by
        rw [List.append_nil, List.all_eq_true]
        intro field member
        have seen : field.name ∈ (done.map RecordField.name).reverse :=
          List.mem_reverse.mpr (List.mem_map_of_mem member)
        rw [List.contains_iff_mem.mpr seen, Bool.or_true]
      rw [leftFields_nil, List.nil_append, Reader.entries]
      simp only [nextKey_close, bind_ok, all, if_true,
        after_cons rest (show isBlankOctet 0x7d = false by rfl)]
      rfl
  | @cons field fields value written set before after reads later ih =>
      obtain ⟨fuel, rfl⟩ := Nat.exists_eq_add_one_of_ne_zero (Nat.ne_zero_of_lt enough)
      have new : field.name ∉ done.map RecordField.name := by
        rw [List.map_append, List.map_cons] at unique
        exact fun member => (List.nodup_append.mp unique).2.2 _ member _ List.mem_cons_self rfl
      have unseen : (done.map RecordField.name).reverse.contains field.name = false := by
        rw [Bool.eq_false_iff, Ne, List.contains_iff_mem, List.mem_reverse]
        exact new
      have others := @ih (done ++ [field]) (by rwa [List.append_assoc, List.singleton_append]) false
        fuel (by rw [List.length_cons] at enough; omega)
      rw [List.append_assoc, List.singleton_append, List.map_append, List.reverse_append] at others
      rw [Reader.entries]
      simp only [nextKey_left, orMalformed_closedText, bind_ok, find?_name new, unseen,
        Bool.false_eq_true, if_false, after_cons _ (show isBlankOctet 0x3a = false by rfl),
        reads _ (stops_laterFields written rest)]
      exact others

theorem length_le_leftFields (first : Bool) (fields : List (String × Json)) :
    fields.length ≤ (leftFields first fields).length := by
  induction fields generalizing first with
  | nil => exact Nat.zero_le _
  | cons field fields ih =>
      have later : fields.length ≤ (laterFields fields).length := ih false
      have entry := length_leftFields first field fields
      rw [List.length_cons]
      omega

theorem reads_record {fields : List (RecordField σ)} {written : List (String × Json)}
    {blank record : σ} (reads : Written levels fields written blank record)
    (unique : (fields.map RecordField.name).Nodup) :
    Reads (Reader.record fields blank) (levels + 1) (.obj written) record := by
  intro rest stops
  have entries := length_le_leftFields true written
  rw [render, List.cons_append, List.cons_append, List.append_assoc, List.singleton_append]
  refine @entries_left _ _ [] _ _ _ _ reads unique true _ rest ?_
  unfold fuelFor
  rw [List.length_append]
  change written.length ≤ (renderFields written).length at entries
  omega

end UsageBilling.Json
