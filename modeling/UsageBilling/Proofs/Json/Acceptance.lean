import UsageBilling.Json.Record
import UsageBilling.Proofs.Json.Values
import UsageBilling.Proofs.Time.Rfc3339
/-!
What is accepted. A value that is read has whole numbers of 64 bits, objects with their entries in
order, and no more levels than the reader was allowed to open. A record that is read has whatever
all of its fields keep.
-/
namespace UsageBilling.Json

theorem mem_insertEntry {α : Type} {key : String} {value : α} {entries : List (String × α)}
    {entry : String × α} (member : entry ∈ insertEntry key value entries) :
    entry = (key, value) ∨ entry ∈ entries := by
  induction entries with
  | nil => exact .inl (List.mem_singleton.mp member)
  | cons first entries ih =>
      obtain ⟨label, other⟩ := first
      rw [insertEntry] at member
      split at member
      · exact (List.mem_cons.mp member).imp_right (List.mem_cons_of_mem _)
      · split at member
        · exact List.mem_cons.mp member
        · rcases List.mem_cons.mp member with rfl | later
          · exact .inr List.mem_cons_self
          · exact (ih later).imp_right (List.mem_cons_of_mem _)

theorem insertEntry_ascending {α : Type} (key : String) (value : α) {entries : List (String × α)}
    (order : Ascending entries) : Ascending (insertEntry key value entries) := by
  induction entries with
  | nil => exact List.pairwise_singleton _ _
  | cons first entries ih =>
      obtain ⟨label, other⟩ := first
      obtain ⟨least, tail⟩ := List.pairwise_cons.mp order
      rw [insertEntry]
      split
      · next same =>
          subst same
          exact List.pairwise_cons.mpr ⟨least, tail⟩
      · next differs =>
          split
          · next before =>
              refine List.pairwise_cons.mpr ⟨fun entry member => ?_, order⟩
              rcases List.mem_cons.mp member with rfl | later
              · exact before
              · exact String.lt_trans before (least entry later)
          · next notBefore =>
              refine List.pairwise_cons.mpr ⟨fun entry member => ?_, ih tail⟩
              rcases mem_insertEntry member with rfl | later
              · apply Classical.byContradiction
                intro notAfter
                exact differs (String.le_antisymm (String.not_lt.mp notAfter) (String.not_lt.mp notBefore))
              · exact least entry later

/-- What all readers of values make of `fuel` steps. -/
structure Accepts (fuel : Nat) : Prop where
  value {depth : Nat} {input rest : List UInt8} {value : Json}
    (read : readValue fuel depth input = .ok (value, rest)) : Readable (depth - 1) value
  items {depth : Nat} {first : Bool} {input rest : List UInt8} {items : List Json}
    (read : readItems fuel depth first input = .ok (items, rest)) :
    ∀ item ∈ items, Readable (depth - 1) item
  fields {depth : Nat} {first : Bool} {before fields : List (String × Json)} {input rest : List UInt8}
    (read : readFields fuel depth first before input = .ok (fields, rest))
    (order : Ascending before) (each : ∀ field ∈ before, Readable (depth - 1) field.2) :
    Ascending fields ∧ ∀ field ∈ fields, Readable (depth - 1) field.2

theorem map_eq_ok {α β : Type} {step : Except Fault α} {f : α → β} {result : β}
    (read : step.map f = .ok result) : ∃ value, step = .ok value ∧ f value = result := by
  cases step with
  | error fault => cases read
  | ok value => exact ⟨value, rfl, Except.ok.inj read⟩

theorem orMalformed_eq_ok {α : Type} {found : Option α} {value : α}
    (read : orMalformed found = .ok value) : found = some value := by
  cases found with
  | none => cases read
  | some found => rw [Except.ok.inj read]

theorem readable_of_readNumber? {input rest : List UInt8} {value : Json} (levels : Nat)
    (read : readNumber? input = some (value, rest)) : Readable levels value := by
  rcases readNumber?_fits read with ⟨number, fits, rfl⟩ | ⟨negative, significand, power, rfl⟩
  · exact .int fits
  · exact .real negative significand power

/-- A container may be opened where two levels are left, and leaves its items one less. -/
theorem levels_succ {depth : Nat} (opens : ¬ depth ≤ 1) : depth - 1 = (depth - 1 - 1) + 1 := by
  omega

theorem Accepts.value_succ {fuel depth : Nat} {input rest : List UInt8} {value : Json}
    (accepts : Accepts fuel) (read : readValue (fuel + 1) depth input = .ok (value, rest)) :
    Readable (depth - 1) value := by
  rw [readValue] at read
  -- one case for each first byte, as the reader has them
  split at read
  · cases read
  · obtain ⟨_, _, same⟩ := map_eq_ok read
    obtain ⟨rfl, rfl⟩ := Prod.mk.inj same
    exact .null
  · obtain ⟨_, _, same⟩ := map_eq_ok read
    obtain ⟨rfl, rfl⟩ := Prod.mk.inj same
    exact .bool true
  · obtain ⟨_, _, same⟩ := map_eq_ok read
    obtain ⟨rfl, rfl⟩ := Prod.mk.inj same
    exact .bool false
  · obtain ⟨⟨text, _⟩, _, same⟩ := map_eq_ok read
    obtain ⟨rfl, rfl⟩ := Prod.mk.inj same
    exact .str text
  · split at read
    · cases read
    · next opens =>
        obtain ⟨⟨items, _⟩, each, same⟩ := map_eq_ok read
        obtain ⟨rfl, rfl⟩ := Prod.mk.inj same
        rw [levels_succ opens]
        exact .arr (accepts.items each)
  · split at read
    · cases read
    · next opens =>
        obtain ⟨⟨fields, _⟩, each, same⟩ := map_eq_ok read
        obtain ⟨rfl, rfl⟩ := Prod.mk.inj same
        obtain ⟨order, readable⟩ := accepts.fields each List.Pairwise.nil (List.forall_mem_nil _)
        rw [levels_succ opens]
        exact .obj order readable
  · split at read
    · exact readable_of_readNumber? _ (orMalformed_eq_ok read)
    · cases read

theorem Accepts.items_succ {fuel depth : Nat} {first : Bool} {input rest : List UInt8}
    {items : List Json} (accepts : Accepts fuel)
    (read : readItems (fuel + 1) depth first input = .ok (items, rest)) :
    ∀ item ∈ items, Readable (depth - 1) item := by
  rw [readItems] at read
  obtain ⟨next, _, read⟩ := bind_eq_ok_iff.mp read
  cases next with
  | none =>
      obtain ⟨_, _, done⟩ := bind_eq_ok_iff.mp read
      obtain ⟨rfl, rfl⟩ := Prod.mk.inj (Except.ok.inj done)
      exact List.forall_mem_nil _
  | some next =>
      obtain ⟨⟨item, _⟩, readItem, read⟩ := bind_eq_ok_iff.mp read
      obtain ⟨⟨others, _⟩, readOthers, done⟩ := bind_eq_ok_iff.mp read
      obtain ⟨rfl, rfl⟩ := Prod.mk.inj (Except.ok.inj done)
      exact List.forall_mem_cons.mpr ⟨accepts.value readItem, accepts.items readOthers⟩

theorem Accepts.fields_succ {fuel depth : Nat} {first : Bool} {before fields : List (String × Json)}
    {input rest : List UInt8} (accepts : Accepts fuel)
    (read : readFields (fuel + 1) depth first before input = .ok (fields, rest))
    (order : Ascending before) (each : ∀ field ∈ before, Readable (depth - 1) field.2) :
    Ascending fields ∧ ∀ field ∈ fields, Readable (depth - 1) field.2 := by
  rw [readFields] at read
  obtain ⟨next, _, read⟩ := bind_eq_ok_iff.mp read
  cases next with
  | none =>
      obtain ⟨_, _, done⟩ := bind_eq_ok_iff.mp read
      obtain ⟨rfl, rfl⟩ := Prod.mk.inj (Except.ok.inj done)
      exact ⟨order, each⟩
  | some next =>
      obtain ⟨⟨key, _⟩, _, read⟩ := bind_eq_ok_iff.mp read
      obtain ⟨_, _, read⟩ := bind_eq_ok_iff.mp read
      obtain ⟨⟨value, _⟩, readValue, read⟩ := bind_eq_ok_iff.mp read
      refine accepts.fields read (insertEntry_ascending key value order) ?_
      intro field member
      rcases mem_insertEntry member with rfl | earlier
      · exact accepts.value readValue
      · exact each field earlier

theorem accepts (fuel : Nat) : Accepts fuel := by
  induction fuel with
  | zero => exact ⟨nofun, nofun, nofun⟩
  | succ fuel ih => exact ⟨ih.value_succ, ih.items_succ, ih.fields_succ⟩

/-! ### Values of one kind -/

variable {α β σ : Type} {depth : Nat}

/-- Every value that `read` gives, with `depth` levels left, is as `given` says. -/
def Gives (read : Reader α) (depth : Nat) (given : α → Prop) : Prop :=
  ∀ input rest value, read depth input = .ok (value, rest) → given value

theorem gives_anything (read : Reader α) : Gives read depth fun _ => True := fun _ _ _ _ => trivial

theorem gives_value : Gives Reader.value depth (Readable (depth - 1)) := fun _ _ _ read =>
  (accepts _).value read

theorem gives_integer (least greatest : Int) :
    Gives (Reader.integer least greatest) depth fun value => least ≤ value ∧ value ≤ greatest := by
  intro input rest value read
  unfold Reader.integer at read
  split at read
  · cases read
  · split at read
    · obtain ⟨⟨number, _⟩, _, read⟩ := bind_eq_ok_iff.mp read
      split at read
      · split at read
        · next bounds =>
            obtain ⟨rfl, rfl⟩ := Prod.mk.inj (Except.ok.inj read)
            exact bounds
        · cases read
      · cases read
    · cases read

theorem gives_signed64 : Gives Reader.signed64 depth Quantity.InRange := gives_integer _ _

theorem gives_filterMap (read : Reader α) (f : α → Option β) :
    Gives (read.filterMap f) depth fun result => ∃ value, f value = some result := by
  intro input rest result ran
  unfold Reader.filterMap at ran
  split at ran
  · next value left found =>
      split at ran
      · next kept same =>
          obtain ⟨rfl, rfl⟩ := Prod.mk.inj (Except.ok.inj ran)
          exact ⟨value, same⟩
      · cases ran
  · cases ran

theorem gives_instant : Gives Reader.instant depth Instant.Representable := by
  intro input rest instant read
  obtain ⟨text, parsed⟩ := gives_filterMap _ _ input rest instant read
  exact Instant.parse?_representable parsed

theorem gives_optional {read : Reader α} {given : α → Prop}
    (gives : ∀ input rest value, (∀ tail, skipBlank input ≠ 0x6e :: tail) →
      read depth input = .ok (value, rest) → given value) :
    Gives (Reader.optional read) depth fun value => ∀ held ∈ value, given held := by
  intro input rest value ran
  unfold Reader.optional at ran
  split at ran
  · obtain ⟨_, _, same⟩ := map_eq_ok ran
    obtain ⟨rfl, rfl⟩ := Prod.mk.inj same
    exact nofun
  · next other =>
      unfold Reader.map at ran
      split at ran
      · next held left found =>
          obtain ⟨rfl, rfl⟩ := Prod.mk.inj (Except.ok.inj ran)
          intro _ same
          obtain rfl := Option.some.inj same
          exact gives _ _ _ other found
      · cases ran

theorem Gives.optional {read : Reader α} {given : α → Prop} (gives : Gives read depth given) :
    Gives (Reader.optional read) depth fun value => ∀ held ∈ value, given held :=
  gives_optional fun input rest value _ => gives input rest value

theorem readValue_ne_null {fuel : Nat} {input rest : List UInt8} {value : Json}
    (other : ∀ tail, skipBlank input ≠ 0x6e :: tail)
    (read : readValue fuel depth input = .ok (value, rest)) : value ≠ .null := by
  rintro rfl
  cases fuel with
  | zero => cases read
  | succ fuel =>
      rw [readValue] at read
      split at read
      · cases read
      · next tail same => exact other tail same
      · obtain ⟨_, _, same⟩ := map_eq_ok read
        cases same
      · obtain ⟨_, _, same⟩ := map_eq_ok read
        cases same
      · obtain ⟨_, _, same⟩ := map_eq_ok read
        cases same
      · split at read
        · cases read
        · obtain ⟨_, _, same⟩ := map_eq_ok read
          cases same
      · split at read
        · cases read
        · obtain ⟨_, _, same⟩ := map_eq_ok read
          cases same
      · split at read
        · rcases readNumber?_fits (orMalformed_eq_ok read) with ⟨_, _, same⟩ | ⟨_, _, _, same⟩
          · cases same
          · cases same
        · cases read

theorem gives_value? : Gives (Reader.optional Reader.value) depth fun value =>
    ∀ held ∈ value, Readable (depth - 1) held ∧ held ≠ .null :=
  gives_optional fun input rest value other read =>
    ⟨gives_value input rest value read, readValue_ne_null other read⟩

/-! ### Records -/

/-- Whatever is read for the field, setting it keeps what holds of the record. -/
def RecordField.Keeps (field : RecordField σ) (holds : σ → Prop) (depth : Nat) : Prop :=
  Gives field.read depth fun set => ∀ record, holds record → holds (set record)

variable {holds : σ → Prop}

theorem Gives.keeps {read : Reader α} {given : α → Prop} (gives : Gives read depth given)
    (name : String) {set : α → σ → σ} (mayLack mayTrail : Bool)
    (keeps : ∀ value record, given value → holds record → holds (set value record)) :
    RecordField.Keeps ⟨name, read.map set, mayLack, mayTrail⟩ holds depth := by
  intro input rest change ran record held
  change read.map set depth input = _ at ran
  unfold Reader.map at ran
  split at ran
  · next value left found =>
      obtain ⟨rfl, rfl⟩ := Prod.mk.inj (Except.ok.inj ran)
      exact keeps value record (gives _ _ _ found) held
  · cases ran

theorem positions_keeps {fields : List (RecordField σ)}
    (keeps : ∀ field ∈ fields, field.Keeps holds depth) {first : Bool} {before after : σ}
    {input rest : List UInt8} (held : holds before)
    (read : Reader.positions fields first before depth input = .ok (after, rest)) : holds after := by
  induction fields generalizing first before input with
  | nil =>
      obtain ⟨rfl, rfl⟩ := Prod.mk.inj (Except.ok.inj read)
      exact held
  | cons field fields ih =>
      obtain ⟨keepsFirst, keepsOthers⟩ := List.forall_mem_cons.mp keeps
      rw [Reader.positions] at read
      obtain ⟨next, _, read⟩ := bind_eq_ok_iff.mp read
      cases next with
      | none =>
          dsimp only at read
          split at read
          · exact ih keepsOthers held read
          · cases read
      | some next =>
          obtain ⟨⟨set, _⟩, found, read⟩ := bind_eq_ok_iff.mp read
          exact ih keepsOthers (keepsFirst _ _ _ found before held) read

theorem entries_keeps {fields : List (RecordField σ)}
    (keeps : ∀ field ∈ fields, field.Keeps holds depth) {fuel : Nat} {first : Bool}
    {seen : List String} {before after : σ} {input rest : List UInt8} (held : holds before)
    (read : Reader.entries fields fuel first seen before depth input = .ok (after, rest)) :
    holds after := by
  induction fuel generalizing first seen before input with
  | zero => cases read
  | succ fuel ih =>
      rw [Reader.entries] at read
      obtain ⟨next, _, read⟩ := bind_eq_ok_iff.mp read
      cases next with
      | none =>
          dsimp only at read
          split at read
          · obtain ⟨_, _, done⟩ := bind_eq_ok_iff.mp read
            obtain ⟨rfl, rfl⟩ := Prod.mk.inj (Except.ok.inj done)
            exact held
          · cases read
      | some next =>
          obtain ⟨⟨key, _⟩, _, read⟩ := bind_eq_ok_iff.mp read
          dsimp only at read
          split at read
          · -- an entry of another name
            obtain ⟨_, _, read⟩ := bind_eq_ok_iff.mp read
            obtain ⟨_, _, read⟩ := bind_eq_ok_iff.mp read
            exact ih held read
          · next field named =>
              split at read
              · cases read
              · obtain ⟨_, _, read⟩ := bind_eq_ok_iff.mp read
                obtain ⟨⟨set, _⟩, found, read⟩ := bind_eq_ok_iff.mp read
                have keepsField := keeps field (List.mem_of_find?_eq_some named)
                exact ih (keepsField _ _ _ found before held) read

theorem record_keeps {fields : List (RecordField σ)}
    (keeps : ∀ field ∈ fields, field.Keeps holds (depth - 1)) {blank : σ} (held : holds blank) :
    Gives (Reader.record fields blank) depth holds := by
  intro input rest record read
  unfold Reader.record at read
  split at read
  · cases read
  · split at read
    · cases read
    · obtain ⟨⟨value, _⟩, inside, read⟩ := bind_eq_ok_iff.mp read
      obtain ⟨_, _, done⟩ := bind_eq_ok_iff.mp read
      obtain ⟨rfl, rfl⟩ := Prod.mk.inj (Except.ok.inj done)
      exact positions_keeps keeps held inside
  · split at read
    · cases read
    · exact entries_keeps keeps held read
  · cases read

theorem Gives.run {read : Reader α} {given : α → Prop} (gives : Gives read fullDepth given)
    {input : List UInt8} {value : α} (ran : read.run input = .ok value) : given value := by
  obtain ⟨⟨found, _⟩, reads, done⟩ := bind_eq_ok_iff.mp ran
  dsimp only at done
  split at done
  · obtain rfl := Except.ok.inj done
    exact gives _ _ _ reads
  · cases done

end UsageBilling.Json
