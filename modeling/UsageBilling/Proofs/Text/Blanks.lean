import UsageBilling.Text.Blank
import Mathlib.Data.List.DropRight
/-!
Trimming. What is left of a text is the one part of it that neither starts nor ends with a blank and
has nothing but blanks around it.
-/
namespace UsageBilling.Text

def Bare (text : List Char) : Prop :=
  (∀ c ∈ text.head?, isBlank c = false) ∧ ∀ c ∈ text.getLast?, isBlank c = false

/-- `middle` is bare and stands in `text` between blanks. -/
def Trims (text middle : List Char) : Prop :=
  Bare middle ∧ ∃ left right, (∀ c ∈ left, isBlank c = true) ∧ (∀ c ∈ right, isBlank c = true) ∧
    text = left ++ middle ++ right

theorem trimEnd_eq_rdropWhile (text : List Char) : trimEnd text = text.rdropWhile isBlank := rfl

theorem trimStart_append {left rest : List Char} (blank : ∀ c ∈ left, isBlank c = true)
    (first : ∀ c ∈ rest.head?, isBlank c = false) : trimStart (left ++ rest) = rest := by
  unfold trimStart
  rw [List.dropWhile_append_of_pos blank]
  cases rest with
  | nil => rfl
  | cons head tail =>
      apply List.dropWhile_cons_of_neg
      rw [first head rfl]
      exact Bool.false_ne_true

theorem trimEnd_append {middle right : List Char} (blank : ∀ c ∈ right, isBlank c = true)
    (last : ∀ c ∈ middle.getLast?, isBlank c = false) : trimEnd (middle ++ right) = middle := by
  unfold trimEnd
  rw [List.reverse_append]
  have start : trimStart (right.reverse ++ middle.reverse) = middle.reverse :=
    trimStart_append (fun c member => blank c (List.mem_reverse.mp member))
      fun c member => last c (by rwa [List.head?_reverse] at member)
  rw [trimStart] at start
  rw [start, List.reverse_reverse]

theorem trim_of_trims {text middle : List Char} (trims : Trims text middle) :
    trim text = middle := by
  obtain ⟨⟨first, last⟩, left, right, leftBlank, rightBlank, rfl⟩ := trims
  unfold trim
  cases middle with
  | nil =>
      -- nothing but blanks
      have blank : ∀ c ∈ left ++ [] ++ right, isBlank c = true := by
        intro c member
        rw [List.append_nil, List.mem_append] at member
        exact member.elim (leftBlank c) (rightBlank c)
      have start : trimStart (left ++ [] ++ right ++ []) = [] := trimStart_append blank first
      rw [List.append_nil] at start
      rw [start]
      rfl
  | cons head tail =>
      rw [List.append_assoc, trimStart_append leftBlank (by simpa using first),
        trimEnd_append rightBlank last]

theorem bare_trim (text : List Char) : Bare (trim text) := by
  constructor
  · intro c first
    obtain ⟨right, whole⟩ := List.rdropWhile_prefix isBlank (l := trimStart text)
    have start := List.head?_dropWhile_not isBlank text
    have same : (trimStart text).head? = some c := by
      rw [← whole, List.head?_append, ← trimEnd_eq_rdropWhile]
      change (trim text).head?.or right.head? = some c
      rw [Option.mem_def.mp first]
      rfl
    rw [trimStart] at same
    rw [same] at start
    exact start
  · intro c last
    have filled : (trimStart text).rdropWhile isBlank ≠ [] := by
      intro empty
      rw [trim, trimEnd_eq_rdropWhile, empty] at last
      cases last
    have stop := List.rdropWhile_last_not isBlank (trimStart text) filled
    have same : ((trimStart text).rdropWhile isBlank).getLast filled = c :=
      Option.some.inj ((List.getLast?_eq_some_getLast filled).symm.trans last)
    rw [same] at stop
    exact Bool.not_eq_true _ ▸ stop

theorem trims_trim (text : List Char) : Trims text (trim text) := by
  refine ⟨bare_trim text, text.takeWhile isBlank, (trimStart text).rtakeWhile isBlank, ?_, ?_, ?_⟩
  · exact List.all_eq_true.mp List.all_takeWhile
  · exact fun c member => List.mem_rtakeWhile_imp member
  · rw [List.append_assoc, trim, trimEnd_eq_rdropWhile, List.rdropWhile_append_rtakeWhile, trimStart,
      List.takeWhile_append_dropWhile]

theorem trim_eq_iff {text middle : List Char} : trim text = middle ↔ Trims text middle := by
  constructor
  · rintro rfl
    exact trims_trim text
  · exact trim_of_trims

theorem trims_self {text : List Char} (plain : ∀ c ∈ text, isBlank c = false) : Trims text text := by
  refine ⟨⟨fun c first => plain c (List.mem_of_mem_head? first),
    fun c last => plain c (List.mem_of_mem_getLast? last)⟩, [], [], ?_, ?_, ?_⟩
  · exact fun c member => absurd member List.not_mem_nil
  · exact fun c member => absurd member List.not_mem_nil
  · rw [List.nil_append, List.append_nil]

theorem isBlank_of_isDigit {c : Char} (digit : c.isDigit = true) : isBlank c = false := by
  have bounds : 48 ≤ c.toNat ∧ c.toNat ≤ 57 := Char.isDigit_iff_toNat.mp digit
  simp only [isBlank, blankRanges, List.any_cons, List.any_nil, Bool.or_false, Bool.or_eq_false_iff,
    Bool.and_eq_false_iff, decide_eq_false_iff_not]
  omega

end UsageBilling.Text
