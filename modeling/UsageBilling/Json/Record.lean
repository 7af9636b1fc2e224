import UsageBilling.Json.Reader
import UsageBilling.Time.Rfc3339
import UsageBilling.Uuid
/-!
Records with named fields. A record is written as an object, in which other fields are passed over
and no field may stand twice, or as an array of its fields in order. Reading starts from a blank
record and sets one field after the other.
-/
namespace UsageBilling.Json

/-- A field of a record: how to read and set it, and whether it may be left out of an object and at
the end of an array. -/
structure RecordField (σ : Type) where
  name : String
  read : Reader (σ → σ)
  mayLack : Bool
  mayTrail : Bool

namespace RecordField

variable {σ α : Type}

def required (name : String) (read : Reader α) (set : α → σ → σ) : RecordField σ :=
  ⟨name, read.map set, false, false⟩

def optional (name : String) (read : Reader α) (set : Option α → σ → σ) : RecordField σ :=
  ⟨name, (Reader.optional read).map set, true, false⟩

/-- A field that keeps its blank value where it is left out. -/
def defaulted (name : String) (read : Reader α) (set : α → σ → σ) : RecordField σ :=
  ⟨name, read.map set, true, true⟩

def defaultedOptional (name : String) (read : Reader α) (set : Option α → σ → σ) : RecordField σ :=
  ⟨name, (Reader.optional read).map set, true, true⟩

end RecordField

namespace Reader

variable {σ : Type}

def positions : List (RecordField σ) → (first : Bool) → σ → Reader σ
  | [], _, record => fun _ input => .ok (record, input)
  | field :: fields, first, record => fun depth input => do
    match ← nextElement first input with
    | none => if field.mayTrail then positions fields first record depth input else .error .mismatched
    | some rest =>
      let (set, rest) ← field.read depth rest
      positions fields false (set record) depth rest

/-- Reads the entries of an object, where the fields named in `seen` have been set. -/
def entries (fields : List (RecordField σ)) : (fuel : Nat) → (first : Bool) → (seen : List String) →
    σ → Reader σ
  | 0, _, _, _ => fun _ _ => .error .malformed
  | fuel + 1, first, seen, record => fun depth input => do
    match ← nextKey first input with
    | none =>
      if fields.all fun field => field.mayLack || seen.contains field.name then
        return (record, ← after 0x7d input)
      else .error .mismatched
    | some rest =>
      let (key, rest) ← orMalformed (readString? rest)
      match fields.find? (·.name == key) with
      | none =>
        let ((), rest) ← skipped depth (← after 0x3a rest)
        entries fields fuel false seen record depth rest
      | some field =>
        if seen.contains key then .error .mismatched
        else
          let (set, rest) ← field.read depth (← after 0x3a rest)
          entries fields fuel false (key :: seen) (set record) depth rest

def record (fields : List (RecordField σ)) (blank : σ) : Reader σ := fun depth input =>
  match skipBlank input with
  | [] => .error .malformed
  | 0x5b :: rest =>
    if depth ≤ 1 then .error .malformed
    else do
      let (value, rest) ← positions fields true blank (depth - 1) rest
      return (value, ← after 0x5d rest)
  | 0x7b :: rest =>
    if depth ≤ 1 then .error .malformed
    else entries fields (fuelFor rest) true [] blank (depth - 1) rest
  | rest => .error (otherKind rest)

def instant : Reader Instant := string.filterMap Instant.parse?

def uuid : Reader Uuid := string.filterMap Uuid.parse?

end Reader

end UsageBilling.Json
