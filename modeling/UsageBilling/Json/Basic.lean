/-!
JSON values. Whole numbers of 64 bits are kept exactly. Any other number is kept as a significand
of at most 64 bits times a power of ten.
-/
namespace UsageBilling

inductive Json where
  | null
  | bool (value : Bool)
  | int (value : Int)
  | real (negative : Bool) (significand : Nat) (exponent : Int)
  | str (value : String)
  | arr (items : List Json)
  | obj (fields : List (String × Json))
  deriving Inhabited

namespace Json

mutual

def decEq : (a b : Json) → Decidable (a = b)
  | .null, b => match b with
    | .null => isTrue rfl
    | .bool _ | .int _ | .real .. | .str _ | .arr _ | .obj _ => isFalse nofun
  | .bool x, b => match b with
    | .bool y => if same : x = y then isTrue (by rw [same]) else isFalse (by simp [same])
    | .null | .int _ | .real .. | .str _ | .arr _ | .obj _ => isFalse nofun
  | .int x, b => match b with
    | .int y => if same : x = y then isTrue (by rw [same]) else isFalse (by simp [same])
    | .null | .bool _ | .real .. | .str _ | .arr _ | .obj _ => isFalse nofun
  | .real n x e, b => match b with
    | .real m y f =>
      if same : n = m ∧ x = y ∧ e = f then isTrue (by simp [same]) else isFalse (by simpa using same)
    | .null | .bool _ | .int _ | .str _ | .arr _ | .obj _ => isFalse nofun
  | .str x, b => match b with
    | .str y => if same : x = y then isTrue (by rw [same]) else isFalse (by simp [same])
    | .null | .bool _ | .int _ | .real .. | .arr _ | .obj _ => isFalse nofun
  | .arr x, b => match b with
    | .arr y => match decEqItems x y with
      | isTrue same => isTrue (by rw [same])
      | isFalse different => isFalse (by simpa using different)
    | .null | .bool _ | .int _ | .real .. | .str _ | .obj _ => isFalse nofun
  | .obj x, b => match b with
    | .obj y => match decEqFields x y with
      | isTrue same => isTrue (by rw [same])
      | isFalse different => isFalse (by simpa using different)
    | .null | .bool _ | .int _ | .real .. | .str _ | .arr _ => isFalse nofun

def decEqItems : (a b : List Json) → Decidable (a = b)
  | [], [] => isTrue rfl
  | [], _ :: _ => isFalse nofun
  | _ :: _, [] => isFalse nofun
  | x :: xs, y :: ys => match decEq x y, decEqItems xs ys with
    | isTrue head, isTrue tail => isTrue (by rw [head, tail])
    | isFalse head, _ => isFalse (by simp [head])
    | _, isFalse tail => isFalse (by simp [tail])

def decEqFields : (a b : List (String × Json)) → Decidable (a = b)
  | [], [] => isTrue rfl
  | [], _ :: _ => isFalse nofun
  | _ :: _, [] => isFalse nofun
  | (key, x) :: xs, (label, y) :: ys => match decEq x y, decEqFields xs ys with
    | isTrue head, isTrue tail =>
      if same : key = label then isTrue (by rw [head, tail, same]) else isFalse (by simp [same])
    | isFalse head, _ => isFalse (by simp [head])
    | _, isFalse tail => isFalse (by simp [tail])

end

instance : DecidableEq Json := decEq

def kind : Json → String
  | .null => "null"
  | .bool _ => "bool"
  | .int _ | .real .. => "number"
  | .str _ => "string"
  | .arr _ => "array"
  | .obj _ => "object"

/-- Sets the entry of `key`. Entries are in the order of their keys. -/
def insertEntry {α : Type} (key : String) (value : α) : List (String × α) → List (String × α)
  | [] => [(key, value)]
  | (label, other) :: entries =>
    if key = label then (key, value) :: entries
    else if key < label then (key, value) :: (label, other) :: entries
    else (label, other) :: insertEntry key value entries

def field? (name : String) : Json → Option Json
  | .obj fields => fields.lookup name
  | _ => none

def text? : Json → Option String
  | .str value => some value
  | _ => none

def ofOption {α : Type} (write : α → Json) : Option α → Json
  | none => .null
  | some value => write value

def ofText? (value : Option String) : Json := ofOption .str value

end Json

end UsageBilling
