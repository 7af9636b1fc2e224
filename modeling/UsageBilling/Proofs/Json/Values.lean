import UsageBilling.Proofs.Json.Numbers
import UsageBilling.Proofs.Json.Strings
/-!
Values of JSON. What is written for a value without reals is read back as that value, as long as the
reader may open as many levels as it has.
-/
namespace UsageBilling.Json

open UsageBilling.Text (digits_toDigits signedDigits)

def Ascending {α : Type} (entries : List (String × α)) : Prop :=
  entries.Pairwise fun earlier later => earlier.1 < later.1

/-- A value that a reader can come up with: whole numbers are of 64 bits, the entries of an object
stand in the order of their keys, and no more than `levels` arrays and objects stand in each other. -/
inductive Readable : (levels : Nat) → Json → Prop where
  | null {levels : Nat} : Readable levels .null
  | bool {levels : Nat} (value : Bool) : Readable levels (.bool value)
  | int {levels : Nat} {value : Int} (fits : FitsWord value) : Readable levels (.int value)
  | real {levels : Nat} (negative : Bool) (significand : Nat) (exponent : Int) :
      Readable levels (.real negative significand exponent)
  | str {levels : Nat} (text : String) : Readable levels (.str text)
  | arr {levels : Nat} {items : List Json} (each : ∀ item ∈ items, Readable levels item) :
      Readable (levels + 1) (.arr items)
  | obj {levels : Nat} {fields : List (String × Json)} (order : Ascending fields)
      (each : ∀ field ∈ fields, Readable levels field.2) : Readable (levels + 1) (.obj fields)

inductive Whole : Json → Prop where
  | null : Whole .null
  | bool (value : Bool) : Whole (.bool value)
  | int (value : Int) : Whole (.int value)
  | str (text : String) : Whole (.str text)
  | arr {items : List Json} (each : ∀ item ∈ items, Whole item) : Whole (.arr items)
  | obj {fields : List (String × Json)} (each : ∀ field ∈ fields, Whole field.2) :
      Whole (.obj fields)

/-! ### Steps -/

theorem bind_ok {α β : Type} (value : α) (next : α → Except Fault β) :
    (Except.ok value >>= next) = next value := rfl

theorem bind_eq_ok_iff {α β : Type} {step : Except Fault α} {next : α → Except Fault β} {result : β} :
    step >>= next = .ok result ↔ ∃ value, step = .ok value ∧ next value = .ok result := by
  cases step with
  | error fault =>
      constructor
      · intro read
        cases read
      · rintro ⟨value, read, _⟩
        cases read
  | ok value =>
      constructor
      · exact fun read => ⟨value, rfl, read⟩
      · rintro ⟨_, read, next⟩
        rwa [Except.ok.inj read]

/-! ### Beginnings -/

theorem skipBlank_cons {octet : UInt8} (rest : List UInt8) (printed : isBlankOctet octet = false) :
    skipBlank (octet :: rest) = octet :: rest := by
  unfold skipBlank
  rw [List.dropWhile_cons, printed, if_neg Bool.false_ne_true]

/-- How a written value may begin: not with a blank nor with a closing bracket, and with an `n` only
if it is null. -/
def Begins (value : Json) (text : List UInt8) : Prop :=
  ∃ octet rest, text = octet :: rest ∧ isBlankOctet octet = false ∧ octet ≠ 0x5d ∧
    (octet = 0x6e → value = .null)

theorem begins_digits {value : Json} {digits : List Char} (rest : List UInt8) (filled : digits ≠ [])
    (all : ∀ c ∈ digits, c.isDigit = true) : Begins value (ascii digits ++ rest) := by
  obtain ⟨c, digits, rfl⟩ := List.exists_cons_of_ne_nil filled
  have digit := (octet_of_isDigit (all c List.mem_cons_self)).1
  have other : ∀ octet : UInt8, isDigitOctet octet = false → UInt8.ofNat c.toNat ≠ octet := by
    rintro octet noDigit rfl
    rw [digit] at noDigit
    cases noDigit
  refine ⟨_, _, rfl, ?_, other _ rfl, fun same => absurd same (other _ rfl)⟩
  simp only [isBlankOctet, Bool.or_eq_false_iff, beq_eq_false_iff_ne]
  exact ⟨⟨⟨other _ rfl, other _ rfl⟩, other _ rfl⟩, other _ rfl⟩

theorem render_begins (value : Json) : Begins value (render value) := by
  cases value with
  | null => exact ⟨0x6e, _, rfl, rfl, by decide, fun _ => rfl⟩
  | bool value =>
      cases value with
      | true => exact ⟨0x74, _, rfl, rfl, by decide, nofun⟩
      | false => exact ⟨0x66, _, rfl, rfl, by decide, nofun⟩
  | int value =>
      obtain ⟨filled, all, _⟩ := digits_toDigits value.natAbs
      rw [render, signedDigits]
      split
      · exact ⟨0x2d, _, rfl, rfl, by decide, nofun⟩
      · rw [← List.append_nil (ascii _)]
        exact begins_digits [] filled all
  | real negative significand exponent =>
      obtain ⟨filled, all, _⟩ := digits_toDigits significand
      rw [render, renderReal]
      cases negative with
      | true => exact ⟨0x2d, _, rfl, rfl, by decide, nofun⟩
      | false =>
          simp only [Bool.false_eq_true, if_false, List.nil_append]
          exact begins_digits _ filled all
  | str text => exact ⟨0x22, _, rfl, rfl, by decide, nofun⟩
  | arr items => exact ⟨0x5b, _, rfl, rfl, by decide, nofun⟩
  | obj fields => exact ⟨0x7b, _, rfl, rfl, by decide, nofun⟩

theorem length_render_pos (value : Json) : 0 < (render value).length := by
  obtain ⟨octet, tail, begins, _⟩ := render_begins value
  rw [begins, List.length_cons]
  exact Nat.succ_pos _

theorem skipBlank_render (value : Json) (rest : List UInt8) :
    skipBlank (render value ++ rest) = render value ++ rest := by
  obtain ⟨octet, tail, begins, printed, _⟩ := render_begins value
  rw [begins, List.cons_append, skipBlank_cons _ printed]

theorem nextElement_first (value : Json) (rest : List UInt8) :
    nextElement true (render value ++ rest) = .ok (some (render value ++ rest)) := by
  obtain ⟨octet, tail, begins, printed, opens, _⟩ := render_begins value
  unfold nextElement
  rw [begins, List.cons_append, skipBlank_cons _ printed]
  split
  · next same => cases same
  · next same => exact absurd (List.cons.inj same).1 opens
  · next same => rw [if_pos rfl, same]

theorem nextElement_later (value : Json) (rest : List UInt8) :
    nextElement false (0x2c :: (render value ++ rest)) = .ok (some (render value ++ rest)) := by
  obtain ⟨octet, tail, begins, printed, opens, _⟩ := render_begins value
  unfold nextElement
  rw [begins, List.cons_append, skipBlank_cons _ (show isBlankOctet 0x2c = false by rfl)]
  split
  · next same => cases same
  · next same => exact absurd (List.cons.inj same).1 (by decide)
  · next same =>
      obtain ⟨rfl, rfl⟩ := List.cons.inj same
      rw [if_neg Bool.false_ne_true, if_pos rfl, skipBlank_cons _ printed]
      split
      · next same => cases same
      · next same => exact absurd (List.cons.inj same).1 opens
      · rfl

theorem nextElement_close (first : Bool) (rest : List UInt8) :
    nextElement first (0x5d :: rest) = .ok none := rfl

theorem nextKey_first (key : String) (rest : List UInt8) :
    nextKey true (renderText key ++ rest) = .ok (some (closedText key ++ rest)) := rfl

theorem nextKey_later (key : String) (rest : List UInt8) :
    nextKey false (0x2c :: (renderText key ++ rest)) = .ok (some (closedText key ++ rest)) := rfl

theorem nextKey_close (first : Bool) (rest : List UInt8) :
    nextKey first (0x7d :: rest) = .ok none := rfl

theorem after_cons {octet : UInt8} (rest : List UInt8) (printed : isBlankOctet octet = false) :
    after octet (octet :: rest) = .ok rest := by
  unfold after
  rw [skipBlank_cons rest printed]
  exact if_pos rfl

/-! ### Arrays and objects -/

def laterItems (items : List Json) : List UInt8 := items.flatMap fun item => 0x2c :: render item

def renderField (field : String × Json) : List UInt8 :=
  renderText field.1 ++ 0x3a :: render field.2

def laterFields (fields : List (String × Json)) : List UInt8 :=
  fields.flatMap fun field => 0x2c :: renderField field

@[simp] theorem laterItems_nil : laterItems [] = [] := rfl

@[simp] theorem laterItems_cons (item : Json) (items : List Json) :
    laterItems (item :: items) = 0x2c :: (render item ++ laterItems items) := rfl

@[simp] theorem laterFields_nil : laterFields [] = [] := rfl

@[simp] theorem laterFields_cons (field : String × Json) (fields : List (String × Json)) :
    laterFields (field :: fields) = 0x2c :: (renderField field ++ laterFields fields) := rfl

theorem renderItems_cons (item : Json) (items : List Json) :
    renderItems (item :: items) = render item ++ laterItems items := by
  induction items generalizing item with
  | nil => rw [renderItems, laterItems_nil, List.append_nil]
  | cons next items ih =>
      rw [renderItems, ih, laterItems_cons]
      exact List.cons_ne_nil _ _

theorem renderFields_cons (field : String × Json) (fields : List (String × Json)) :
    renderFields (field :: fields) = renderField field ++ laterFields fields := by
  induction fields generalizing field with
  | nil => rw [renderFields, renderField, laterFields_nil, List.append_nil]
  | cons next fields ih =>
      obtain ⟨key, value⟩ := field
      rw [renderFields, ih, laterFields_cons]
      · rfl
      · exact List.cons_ne_nil _ _

theorem stops_laterItems (items : List Json) (rest : List UInt8) :
    Stops (laterItems items ++ 0x5d :: rest) := by
  cases items with
  | nil => exact stops_cons _ (.inr (.inl rfl))
  | cons item items => exact stops_cons _ (.inl rfl)

theorem stops_laterFields (fields : List (String × Json)) (rest : List UInt8) :
    Stops (laterFields fields ++ 0x7d :: rest) := by
  cases fields with
  | nil => exact stops_cons _ (.inr (.inr rfl))
  | cons field fields => exact stops_cons _ (.inl rfl)

/-- What is written for the items that are left, of which the first one has no comma before it. -/
def leftItems (first : Bool) (items : List Json) : List UInt8 :=
  if first then renderItems items else laterItems items

def leftFields (first : Bool) (fields : List (String × Json)) : List UInt8 :=
  if first then renderFields fields else laterFields fields

theorem leftItems_nil (first : Bool) : leftItems first [] = [] := by
  cases first <;> rfl

theorem leftFields_nil (first : Bool) : leftFields first [] = [] := by
  cases first <;> rfl

theorem length_leftItems (first : Bool) (item : Json) (items : List Json) :
    (render item).length + (laterItems items).length ≤ (leftItems first (item :: items)).length := by
  cases first with
  | true => exact Nat.le_of_eq (by rw [leftItems, if_pos rfl, renderItems_cons, List.length_append])
  | false => exact Nat.le_succ_of_le (Nat.le_of_eq List.length_append.symm)

theorem length_leftFields (first : Bool) (field : String × Json) (fields : List (String × Json)) :
    (render field.2).length + (laterFields fields).length <
      (leftFields first (field :: fields)).length := by
  have entry : (renderField field).length =
      (renderText field.1).length + ((render field.2).length + 1) := by
    rw [renderField, List.length_append, List.length_cons]
  cases first with
  | true =>
      rw [leftFields, if_pos rfl, renderFields_cons, List.length_append]
      omega
  | false =>
      rw [leftFields, if_neg Bool.false_ne_true, laterFields_cons, List.length_cons,
        List.length_append]
      omega

theorem nextElement_left (first : Bool) (item : Json) (items : List Json) (rest : List UInt8) :
    nextElement first (leftItems first (item :: items) ++ rest) =
      .ok (some (render item ++ (laterItems items ++ rest))) := by
  cases first with
  | true => rw [leftItems, if_pos rfl, renderItems_cons, List.append_assoc, nextElement_first]
  | false =>
      rw [leftItems, if_neg Bool.false_ne_true, laterItems_cons, List.cons_append,
        List.append_assoc, nextElement_later]

theorem nextKey_left (first : Bool) (key : String) (value : Json) (fields : List (String × Json))
    (rest : List UInt8) : nextKey first (leftFields first ((key, value) :: fields) ++ rest) =
      .ok (some (closedText key ++ 0x3a :: (render value ++ (laterFields fields ++ rest)))) := by
  have entry : renderField (key, value) ++ (laterFields fields ++ rest) =
      renderText key ++ (0x3a :: (render value ++ (laterFields fields ++ rest))) := by
    rw [renderField, List.append_assoc, List.cons_append]
  cases first with
  | true =>
      rw [leftFields, if_pos rfl, renderFields_cons, List.append_assoc, entry, nextKey_first]
  | false =>
      rw [leftFields, if_neg Bool.false_ne_true, laterFields_cons, List.cons_append,
        List.append_assoc, entry, nextKey_later]

theorem orMalformed_closedText (key : String) (rest : List UInt8) :
    orMalformed (readString? (closedText key ++ rest)) = .ok (key, rest) := by
  rw [readString?_closedText]
  rfl

theorem insertEntry_of_greatest {α : Type} {key : String} (value : α) {entries : List (String × α)}
    (greatest : ∀ entry ∈ entries, entry.1 < key) :
    insertEntry key value entries = entries ++ [(key, value)] := by
  induction entries with
  | nil => rfl
  | cons entry entries ih =>
      obtain ⟨label, other⟩ := entry
      have below : label < key := greatest _ List.mem_cons_self
      have notBefore : ¬ key < label := String.lt_asymm below
      have differs : key ≠ label := by
        rintro rfl
        exact String.lt_irrefl _ below
      rw [insertEntry, if_neg differs, if_neg notBefore,
        ih fun entry member => greatest entry (List.mem_cons_of_mem _ member)]
      rfl

/-- The reader gives the value back from what is written for it, if it may open `levels` levels. -/
def ReadsBack (levels : Nat) (value : Json) : Prop :=
  ∀ fuel rest, 2 * (render value).length ≤ fuel → Stops rest →
    readValue fuel (levels + 1) (render value ++ rest) = .ok (value, rest)

theorem readItems_left {levels : Nat} {items : List Json}
    (reads : ∀ item ∈ items, ReadsBack levels item) (first : Bool) (fuel : Nat) (rest : List UInt8)
    (enough : 2 * (leftItems first items).length + 2 ≤ fuel) :
    readItems fuel (levels + 1) first (leftItems first items ++ 0x5d :: rest) =
      .ok (items, rest) := by
  induction items generalizing first fuel with
  | nil =>
      obtain ⟨fuel, rfl⟩ := Nat.exists_eq_add_one_of_ne_zero (Nat.ne_zero_of_lt enough)
      rw [leftItems_nil, List.nil_append, readItems, nextElement_close, bind_ok]
      rfl
  | cons item items ih =>
      obtain ⟨fuel, rfl⟩ := Nat.exists_eq_add_one_of_ne_zero (Nat.ne_zero_of_lt enough)
      have length := length_leftItems first item items
      have positive := length_render_pos item
      -- Each item is at least one octet long, which pays for the step that reads it.
      have readFirst := reads item List.mem_cons_self fuel _ (by omega) (stops_laterItems items rest)
      have others := ih (fun other member => reads other (List.mem_cons_of_mem _ member)) false fuel
        (by change 2 * (laterItems items).length + 2 ≤ fuel; omega)
      rw [readItems, nextElement_left, bind_ok]
      simp only [readFirst, bind_ok]
      change (readItems fuel (levels + 1) false (leftItems false items ++ 0x5d :: rest) >>= _) = _
      rw [others]
      rfl

theorem readFields_left {levels : Nat} {fields : List (String × Json)}
    (reads : ∀ field ∈ fields, ReadsBack levels field.2) (first : Bool)
    (before : List (String × Json)) (fuel : Nat) (rest : List UInt8)
    (order : Ascending (before ++ fields))
    (enough : 2 * (leftFields first fields).length + 2 ≤ fuel) :
    readFields fuel (levels + 1) first before (leftFields first fields ++ 0x7d :: rest) =
      .ok (before ++ fields, rest) := by
  induction fields generalizing first fuel before with
  | nil =>
      obtain ⟨fuel, rfl⟩ := Nat.exists_eq_add_one_of_ne_zero (Nat.ne_zero_of_lt enough)
      rw [leftFields_nil, List.nil_append, List.append_nil, readFields, nextKey_close, bind_ok]
      rfl
  | cons field fields ih =>
      obtain ⟨fuel, rfl⟩ := Nat.exists_eq_add_one_of_ne_zero (Nat.ne_zero_of_lt enough)
      obtain ⟨key, value⟩ := field
      have length : (render value).length + (laterFields fields).length < _ :=
        length_leftFields first (key, value) fields
      have greatest : ∀ entry ∈ before, entry.1 < key := fun entry member =>
        (List.pairwise_append.mp order).2.2 entry member (key, value) List.mem_cons_self
      have readFirst : readValue fuel (levels + 1) (render value ++ (laterFields fields ++ _)) = _ :=
        reads (key, value) List.mem_cons_self fuel _ (by dsimp only; omega)
          (stops_laterFields fields rest)
      have others := ih (fun other member => reads other (List.mem_cons_of_mem _ member)) false
        (before ++ [(key, value)]) fuel (by rwa [List.append_assoc, List.singleton_append])
        (by change 2 * (laterFields fields).length + 2 ≤ fuel; omega)
      rw [List.append_assoc, List.singleton_append] at others
      rw [readFields, nextKey_left, bind_ok]
      simp only [orMalformed_closedText, after_cons _ (show isBlankOctet 0x3a = false by rfl), bind_ok,
        readFirst, insertEntry_of_greatest value greatest]
      exact others

/-! ### Whole values -/

/-- Fuel that is enough for a written value lets the reader take a first step. -/
theorem exists_fuel {value : Json} {fuel : Nat} (enough : 2 * (render value).length ≤ fuel) :
    ∃ before, fuel = before + 1 := by
  have positive := length_render_pos value
  exact ⟨fuel - 1, by omega⟩

theorem readValue_number {octet : UInt8} {input : List UInt8} (fuel depth : Nat)
    (begins : octet = 0x2d ∨ isDigitOctet octet = true) :
    readValue (fuel + 1) depth (octet :: input) = orMalformed (readNumber? (octet :: input)) := by
  have other : ∀ mark : UInt8, mark ≠ 0x2d → isDigitOctet mark = false → octet ≠ mark := by
    rintro mark noSign noDigit rfl
    rcases begins with sign | digit
    · exact noSign sign
    · rw [digit] at noDigit
      cases noDigit
  have printed : isBlankOctet octet = false := by
    simp only [isBlankOctet, Bool.or_eq_false_iff, beq_eq_false_iff_ne]
    exact ⟨⟨⟨other _ (by decide) rfl, other _ (by decide) rfl⟩, other _ (by decide) rfl⟩,
      other _ (by decide) rfl⟩
  rw [readValue, skipBlank_cons _ printed]
  split
  · next same => cases same
  · next same => exact absurd (List.cons.inj same).1 (other _ (by decide) rfl)
  · next same => exact absurd (List.cons.inj same).1 (other _ (by decide) rfl)
  · next same => exact absurd (List.cons.inj same).1 (other _ (by decide) rfl)
  · next same => exact absurd (List.cons.inj same).1 (other _ (by decide) rfl)
  · next same => exact absurd (List.cons.inj same).1 (other _ (by decide) rfl)
  · next same => exact absurd (List.cons.inj same).1 (other _ (by decide) rfl)
  · next same =>
      obtain ⟨rfl, rfl⟩ := List.cons.inj same
      rw [if_pos begins]

theorem signedDigits_begins (value : Int) : ∃ octet rest, ascii (signedDigits value) = octet :: rest ∧
    (octet = 0x2d ∨ isDigitOctet octet = true) := by
  obtain ⟨filled, all, _⟩ := digits_toDigits value.natAbs
  unfold signedDigits
  split
  · exact ⟨0x2d, _, rfl, .inl rfl⟩
  · obtain ⟨c, digits, spelled⟩ := List.exists_cons_of_ne_nil filled
    rw [spelled] at all ⊢
    exact ⟨_, _, rfl, .inr (octet_of_isDigit (all c List.mem_cons_self)).1⟩

theorem readsBack_int {levels : Nat} {value : Int} (fits : FitsWord value) :
    ReadsBack levels (.int value) := by
  intro fuel rest enough stops
  obtain ⟨fuel, rfl⟩ := exists_fuel enough
  obtain ⟨octet, tail, begins, number⟩ := signedDigits_begins value
  have read := readNumber?_signedDigits fits stops
  rw [begins, List.cons_append] at read
  rw [render, begins, List.cons_append, readValue_number fuel _ number, read]
  rfl

theorem readsBack_str (levels : Nat) (text : String) : ReadsBack levels (.str text) := by
  intro fuel rest enough stops
  obtain ⟨fuel, rfl⟩ := exists_fuel enough
  rw [render, renderText_eq, List.cons_append]
  change (orMalformed (readString? (closedText text ++ rest))).map _ = _
  rw [orMalformed_closedText]
  rfl

theorem readsBack_arr {levels : Nat} {items : List Json}
    (reads : ∀ item ∈ items, ReadsBack levels item) : ReadsBack (levels + 1) (.arr items) := by
  intro fuel rest enough stops
  obtain ⟨fuel, rfl⟩ := exists_fuel enough
  rw [render, List.length_append, List.length_cons, List.length_singleton] at enough
  have read := readItems_left reads true fuel rest
    (by change 2 * (renderItems items).length + 2 ≤ fuel; omega)
  rw [render, List.cons_append, List.cons_append, List.append_assoc, List.singleton_append]
  change (readItems fuel (levels + 1) true (leftItems true items ++ _)).map _ = _
  rw [read]
  rfl

theorem readsBack_obj {levels : Nat} {fields : List (String × Json)} (order : Ascending fields)
    (reads : ∀ field ∈ fields, ReadsBack levels field.2) :
    ReadsBack (levels + 1) (.obj fields) := by
  intro fuel rest enough stops
  obtain ⟨fuel, rfl⟩ := exists_fuel enough
  rw [render, List.length_append, List.length_cons, List.length_singleton] at enough
  have read := readFields_left reads true [] fuel rest order
    (by change 2 * (renderFields fields).length + 2 ≤ fuel; omega)
  rw [render, List.cons_append, List.cons_append, List.append_assoc, List.singleton_append]
  change (readFields fuel (levels + 1) true [] (leftFields true fields ++ _)).map _ = _
  rw [read]
  rfl

theorem readsBack {levels : Nat} {value : Json} (readable : Readable levels value)
    (whole : Whole value) : ReadsBack levels value := by
  induction readable with
  | null =>
      intro fuel rest enough stops
      obtain ⟨fuel, rfl⟩ := exists_fuel enough
      rfl
  | bool value =>
      intro fuel rest enough stops
      obtain ⟨fuel, rfl⟩ := exists_fuel enough
      cases value with
      | true => rfl
      | false => rfl
  | int fits => exact readsBack_int fits
  | real negative significand exponent => cases whole
  | str text => exact readsBack_str _ text
  | arr each ih =>
      cases whole with
      | arr whole => exact readsBack_arr fun item member => ih item member (whole item member)
  | obj order each ih =>
      cases whole with
      | obj whole =>
          exact readsBack_obj order fun field member => ih field member (whole field member)

end UsageBilling.Json
