import UsageBilling.Proofs.Text.Blanks
import UsageBilling.Proofs.Text.Decimals
import UsageBilling.Proofs.Time.Calendar
import UsageBilling.Time.Rfc3339
/-!
Instants as text. Every representable instant is read back from what is written for it, leap seconds
and years of any length included, and every instant that is read is representable.
-/
namespace UsageBilling.Time

open UsageBilling.Text

/-! ### Fields -/

theorem trimStart_cons {c : Char} (rest : List Char) (printed : isBlank c = false) :
    trimStart (c :: rest) = c :: rest := by
  unfold trimStart
  rw [List.dropWhile_cons, printed, if_neg Bool.false_ne_true]

theorem trimStart_digits {digits : List Char} {n : Nat} (number : Digits digits n)
    (rest : List Char) : trimStart (digits ++ rest) = digits ++ rest := by
  obtain ⟨filled, all, _⟩ := number
  obtain ⟨c, digits, rfl⟩ := List.exists_cons_of_ne_nil filled
  exact trimStart_cons _ (isBlank_of_isDigit (all c List.mem_cons_self))

theorem readNumber?_digits {most n : Nat} {digits rest : List Char} (number : Digits digits n)
    (taken : ((digits ++ rest).take most).takeWhile Char.isDigit = digits) :
    readNumber? most (digits ++ rest) = some (n, rest) := by
  obtain ⟨filled, _, value⟩ := number
  have nonempty : digits.isEmpty = false := List.isEmpty_eq_false_iff.mpr filled
  unfold readNumber?
  simp only [taken, nonempty, Bool.false_eq_true, if_false, value, List.drop_left]

theorem readNumber?_padded {width n : Nat} (positive : 0 < width) (fits : n < 10 ^ width)
    (rest : List Char) : readNumber? width (padded width n ++ rest) = some (n, rest) := by
  apply readNumber?_digits (digits_padded width n)
  rw [List.take_left' (length_padded positive fits)]
  exact List.takeWhile_eq_self_iff.mpr (digits_padded width n).2.1

theorem readField?_padded {n : Nat} (fits : n < 100) (rest : List Char) :
    readField? 2 (padded 2 n ++ rest) = some (n, rest) := by
  unfold readField?
  rw [trimStart_digits (digits_padded 2 n), readNumber?_padded (by decide) fits]

theorem readSeparator?_self {separator : Char} (rest : List Char)
    (printed : isBlank separator = false) :
    readSeparator? separator (separator :: rest) = some rest := by
  unfold readSeparator?
  rw [trimStart_cons rest printed]
  exact if_pos rfl

theorem readNumber?_any {n : Nat} {digits rest : List Char} (number : Digits digits n)
    (stops : ∀ c ∈ rest.head?, c.isDigit = false) :
    readNumber? (digits ++ rest).length (digits ++ rest) = some (n, rest) := by
  apply readNumber?_digits number
  rw [List.take_length]
  exact takeWhile_exact number.2.1 stops

theorem readYear?_yearText (year : Int) (rest : List Char) :
    readYear? (yearText year ++ '-' :: rest) = some (year, '-' :: rest) := by
  have number := digits_padded 4 year.natAbs
  have stops : ∀ c ∈ ('-' :: rest).head?, c.isDigit = false := by
    rintro c first
    rw [← Option.some.inj first]
    rfl
  unfold readYear? yearText
  split_ifs with short negative
  · have fits : year.natAbs < 10 ^ 4 := by omega
    obtain ⟨head, tail, spelled⟩ := List.exists_cons_of_ne_nil number.1
    obtain ⟨minus, plus⟩ := Digits.head_ne_sign (spelled ▸ number)
    rw [trimStart_digits number]
    split
    · next same =>
        rw [spelled] at same
        exact absurd (List.cons.inj same).1 minus
    · next same =>
        rw [spelled] at same
        exact absurd (List.cons.inj same).1 plus
    · rw [readNumber?_padded (by decide) fits]
      simp only [Option.map_some, Option.some.injEq, Prod.mk.injEq, and_true]
      omega
  · rw [List.cons_append, trimStart_cons _ (by decide)]
    simp only [readNumber?_any number stops, Option.map_some, Option.some.injEq, Prod.mk.injEq,
      and_true]
    omega
  · rw [List.cons_append, trimStart_cons _ (by decide)]
    simp only [readNumber?_any number stops, Option.map_some, Option.some.injEq, Prod.mk.injEq,
      and_true]
    omega

/-! ### Fractions -/

theorem readFraction?_point {width n : Nat} (positive : 0 < width) (most : width ≤ 9)
    (fits : n < 10 ^ width) (rest : List Char) (stops : ∀ c ∈ rest.head?, c.isDigit = false) :
    readFraction? ('.' :: padded width n ++ rest) = some (n * Nat.pow 10 (9 - width), rest) := by
  obtain ⟨filled, all, value⟩ := digits_padded width n
  have length := length_padded positive fits
  have taken : (padded width n ++ rest).takeWhile Char.isDigit = padded width n :=
    takeWhile_exact all stops
  have nonempty : (padded width n).isEmpty = false := List.isEmpty_eq_false_iff.mpr filled
  have kept : (padded width n).take 9 = padded width n := List.take_of_length_le (by omega)
  rw [List.cons_append, readFraction?]
  simp only [taken, nonempty, Bool.false_eq_true, if_false, kept, value, length,
    List.drop_left' length]

theorem readFraction?_fractionText {nanos : Nat} (fits : nanos < 1000000000) :
    readFraction? (fractionText nanos ++ ['Z']) = some (nanos, ['Z']) := by
  have stops : ∀ c ∈ ['Z'].head?, c.isDigit = false := by
    rintro c first
    rw [← Option.some.inj first]
    rfl
  unfold fractionText
  split_ifs with none millis micros
  · rw [none]
    rfl
  · rw [readFraction?_point (by decide) (by decide) (by omega) _ stops]
    have whole : nanos / 1000000 * Nat.pow 10 (9 - 3) = nanos := by
      change nanos / 1000000 * 1000000 = nanos
      omega
    rw [whole]
  · rw [readFraction?_point (by decide) (by decide) (by omega) _ stops]
    have whole : nanos / 1000 * Nat.pow 10 (9 - 6) = nanos := by
      change nanos / 1000 * 1000 = nanos
      omega
    rw [whole]
  · rw [readFraction?_point (by decide) (by decide) (by omega) _ stops]
    rw [show Nat.pow 10 (9 - 9) = 1 from rfl, Nat.mul_one]

/-! ### Instants -/

theorem onDate_date (instant : Instant) (nanos : Nat) :
    Instant.onDate instant.date instant.secondOfDay nanos = ⟨instant.seconds, nanos⟩ := by
  have number : instant.date.number = instant.seconds / Instant.secondsPerDay + Instant.epochDay :=
    (Date.number_ofNumber _).2
  unfold Instant.onDate Instant.secondOfDay
  rw [number, Instant.mk.injEq]
  unfold Instant.secondsPerDay
  exact ⟨by omega, rfl⟩

theorem secondOfDay_lt (instant : Instant) : instant.secondOfDay.toNat < 86400 ∧
    (instant.secondOfDay.toNat : Int) = instant.secondOfDay := by
  unfold Instant.secondOfDay Instant.secondsPerDay
  omega

/-- Second 60 is written for the leap seconds alone. -/
theorem leap_iff {instant : Instant} (representable : instant.Representable) :
    (if instant.secondOfDay.toNat % 60 + instant.nanos / 1000000000 = 60 then 1 else 0) =
        instant.nanos / 1000000000 ∧
      instant.secondOfDay.toNat % 60 + instant.nanos / 1000000000 ≤ 60 := by
  obtain ⟨_, fraction⟩ := representable
  obtain ⟨_, second⟩ := secondOfDay_lt instant
  unfold Instant.secondOfDay Instant.secondsPerDay at *
  split <;> omega

theorem Date.Valid.two_digits {date : Date} (valid : date.Valid) :
    date.month < 100 ∧ date.day < 100 := by
  obtain ⟨_, upTo12, _, withinMonth⟩ := valid
  have longest := daysInMonth_le date.year date.month
  omega

theorem civilInstant?_parts {instant : Instant} (representable : instant.Representable) :
    civilInstant? instant.date.year instant.date.month instant.date.day
      (instant.secondOfDay.toNat / 3600) (instant.secondOfDay.toNat / 60 % 60)
      (instant.secondOfDay.toNat % 60 + instant.nanos / 1000000000) (instant.nanos % 1000000000) =
      some instant := by
  obtain ⟨below, second⟩ := secondOfDay_lt instant
  obtain ⟨leap, upTo60⟩ := leap_iff representable
  have valid : instant.date.Valid := (Date.number_ofNumber _).1
  have seconds : instant.secondOfDay.toNat / 3600 * 3600 + instant.secondOfDay.toNat / 60 % 60 * 60 +
      (instant.secondOfDay.toNat % 60 + instant.nanos / 1000000000 - instant.nanos / 1000000000) =
        instant.secondOfDay.toNat := by
    omega
  have nanos : instant.nanos % 1000000000 + instant.nanos / 1000000000 * 1000000000 =
      instant.nanos := Nat.mod_add_div' _ _
  have built : Instant.onDate ⟨instant.date.year, instant.date.month, instant.date.day⟩
      instant.secondOfDay instant.nanos = instant := onDate_date instant instant.nanos
  unfold civilInstant?
  rw [if_pos ⟨valid, by omega, by omega, upTo60⟩]
  simp only [leap, seconds, nanos, second, built, if_pos representable.1]

theorem bind_of_some {α β : Type} {step : Option α} {value : α} (found : step = some value)
    (next : α → Option β) : step >>= next = next value := by
  rw [found]
  rfl

theorem readInstant?_instantChars {instant : Instant} (representable : instant.Representable) :
    readInstant? (instantChars instant) = some instant := by
  obtain ⟨below, _⟩ := secondOfDay_lt instant
  obtain ⟨_, upTo60⟩ := leap_iff representable
  obtain ⟨month, day⟩ := (Date.number_ofNumber _).1.two_digits
  have hyphen (rest : List Char) : readSeparator? '-' ('-' :: rest) = some rest :=
    readSeparator?_self rest (by decide)
  have colon (rest : List Char) : readSeparator? ':' (':' :: rest) = some rest :=
    readSeparator?_self rest (by decide)
  unfold instantChars
  simp only [List.append_assoc, List.cons_append]
  -- the parts follow each other as the reader asks for them
  unfold readInstant?
  refine (bind_of_some (readYear?_yearText _ _) _).trans ?_
  refine (bind_of_some (hyphen _) _).trans ?_
  refine (bind_of_some (readField?_padded month _) _).trans ?_
  refine (bind_of_some (hyphen _) _).trans ?_
  refine (bind_of_some (readField?_padded day _) _).trans ?_
  refine (if_pos (.inl rfl)).trans ?_
  refine (bind_of_some (readField?_padded (by omega) _) _).trans ?_
  refine (bind_of_some (colon _) _).trans ?_
  refine (bind_of_some (readField?_padded (by omega) _) _).trans ?_
  refine (bind_of_some (colon _) _).trans ?_
  refine (bind_of_some (readField?_padded (by omega) _) _).trans ?_
  refine (bind_of_some (readFraction?_fractionText (Nat.mod_lt _ (by decide))) _).trans ?_
  refine (bind_of_some (show readZone? (trimStart ['Z']) = some (0, []) from rfl) _).trans ?_
  refine (if_pos rfl).trans ?_
  refine (bind_of_some (civilInstant?_parts representable) _).trans ?_
  simp only [Int.sub_zero]
  exact if_pos representable.1

/-! ### What is read -/

theorem readFraction?_lt {text rest : List Char} {nanos : Nat}
    (read : readFraction? text = some (nanos, rest)) : nanos < 1000000000 := by
  unfold readFraction? at read
  split at read
  · next after =>
      have all : ∀ c ∈ (after.takeWhile Char.isDigit).take 9, c.isDigit = true := fun c member =>
        List.mem_takeWhile_imp (List.mem_of_mem_take member)
      have small := ofDigitChars_lt all
      have length : ((after.takeWhile Char.isDigit).take 9).length ≤ 9 := List.length_take_le _ _
      simp only [Option.ite_none_left_eq_some, Option.some.injEq, Prod.mk.injEq] at read
      obtain ⟨_, rfl, _⟩ := read
      calc
        _ < 10 ^ ((after.takeWhile Char.isDigit).take 9).length *
            Nat.pow 10 (9 - ((after.takeWhile Char.isDigit).take 9).length) :=
          Nat.mul_lt_mul_of_pos_right small (Nat.pow_pos (by decide))
        _ = 10 ^ 9 := by
          rw [show ∀ k, Nat.pow 10 k = 10 ^ k from fun _ => rfl, ← Nat.pow_add]
          congr 1
          omega
        _ = 1000000000 := rfl
  · obtain ⟨rfl, _⟩ := Prod.mk.inj (Option.some.inj read)
    decide

theorem civilInstant?_representable {year : Int} {month day hour minute second nanos : Nat}
    {instant : Instant} (fraction : nanos < 1000000000)
    (read : civilInstant? year month day hour minute second nanos = some instant) :
    instant.Representable := by
  unfold civilInstant? at read
  simp only [Option.ite_none_right_eq_some, Option.some.injEq] at read
  obtain ⟨_, inRange, rfl⟩ := read
  refine ⟨inRange, ?_⟩
  simp only [Instant.onDate, Instant.secondsPerDay]
  by_cases leap : second = 60
  · rw [if_pos leap]
    right
    omega
  · rw [if_neg leap]
    left
    omega

theorem readOffset?_minutes {text rest : List Char} {offset : Int}
    (read : readOffset? text = some (offset, rest)) : offset % 60 = 0 := by
  unfold readOffset? at read
  dsimp only at read
  split at read
  case h_4 => cases read
  all_goals
    simp only [Option.bind_eq_bind, Option.bind_some] at read
    split at read
    · obtain ⟨hours, _, read⟩ := Option.bind_eq_some_iff.mp read
      split at read
      · obtain ⟨minutes, _, read⟩ := Option.bind_eq_some_iff.mp read
        simp only [Option.ite_none_right_eq_some, Option.some.injEq, Prod.mk.injEq] at read
        obtain ⟨_, rfl, _⟩ := read
        omega
      · cases read
    · cases read

theorem readZone?_minutes {text rest : List Char} {offset : Int}
    (read : readZone? text = some (offset, rest)) : offset % 60 = 0 := by
  unfold readZone? at read
  split at read
  · obtain ⟨rfl, _⟩ := Prod.mk.inj (Option.some.inj read)
    rfl
  · obtain ⟨rfl, _⟩ := Prod.mk.inj (Option.some.inj read)
    rfl
  · split at read
    · obtain ⟨rfl, _⟩ := Prod.mk.inj (Option.some.inj read)
      rfl
    · exact readOffset?_minutes read
  · exact readOffset?_minutes read

theorem readInstant?_representable {text : List Char} {instant : Instant}
    (read : readInstant? text = some instant) : instant.Representable := by
  unfold readInstant? at read
  -- the date and the time of day only matter as parts of the civil instant
  obtain ⟨⟨_, _⟩, _, read⟩ := Option.bind_eq_some_iff.mp read
  obtain ⟨_, _, read⟩ := Option.bind_eq_some_iff.mp read
  obtain ⟨⟨_, _⟩, _, read⟩ := Option.bind_eq_some_iff.mp read
  obtain ⟨_, _, read⟩ := Option.bind_eq_some_iff.mp read
  obtain ⟨⟨_, _⟩, _, read⟩ := Option.bind_eq_some_iff.mp read
  dsimp only at read
  split at read
  case h_2 => cases read
  split at read
  case isFalse => cases read
  obtain ⟨_, _, read⟩ := Option.bind_eq_some_iff.mp read
  obtain ⟨⟨_, _⟩, _, read⟩ := Option.bind_eq_some_iff.mp read
  obtain ⟨_, _, read⟩ := Option.bind_eq_some_iff.mp read
  obtain ⟨⟨_, _⟩, _, read⟩ := Option.bind_eq_some_iff.mp read
  obtain ⟨_, _, read⟩ := Option.bind_eq_some_iff.mp read
  obtain ⟨⟨_, _⟩, _, read⟩ := Option.bind_eq_some_iff.mp read
  obtain ⟨⟨nanos, _⟩, fraction, read⟩ := Option.bind_eq_some_iff.mp read
  obtain ⟨⟨offset, _⟩, zone, read⟩ := Option.bind_eq_some_iff.mp read
  obtain ⟨_, read⟩ := Option.ite_none_right_eq_some.mp read
  obtain ⟨civil, made, read⟩ := Option.bind_eq_some_iff.mp read
  obtain ⟨inRange, same⟩ := Option.ite_none_right_eq_some.mp read
  obtain rfl := Option.some.inj same
  have minutes := readZone?_minutes zone
  obtain ⟨_, parts⟩ := civilInstant?_representable (readFraction?_lt fraction) made
  refine ⟨inRange, parts.imp_right fun leap => ⟨leap.1, ?_⟩⟩
  have last := leap.2
  simp only
  omega

end UsageBilling.Time

namespace UsageBilling.Instant

theorem parse?_text {instant : Instant} (representable : instant.Representable) :
    parse? instant.text = some instant := by
  unfold parse? text
  rw [String.toList_ofList]
  exact Time.readInstant?_instantChars representable

theorem parse?_representable {text : String} {instant : Instant} (read : parse? text = some instant) :
    instant.Representable := Time.readInstant?_representable read

end UsageBilling.Instant
