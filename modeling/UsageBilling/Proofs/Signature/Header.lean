import UsageBilling.Proofs.Text.Blanks
import UsageBilling.Proofs.Text.Decimals
import UsageBilling.Signature
/-!
What a header states. The header is its pieces with commas between them, and a piece states that a key
has a value if it is the key, its first equals sign and the value, with nothing but blanks around.
-/
namespace UsageBilling.Signature

abbrev Entry := List Char × List Char

def States (piece : List Char) (entry : Entry) : Prop :=
  '=' ∉ entry.1 ∧ Text.Trims piece (entry.1 ++ '=' :: entry.2)

/-- What pieces state, in order. A piece can be silent. -/
inductive Entries : List (List Char) → List Entry → Prop where
  | nil : Entries [] []
  | entry {piece pieces entry entries} (stated : States piece entry) (rest : Entries pieces entries) :
      Entries (piece :: pieces) (entry :: entries)
  | silent {piece pieces entries} (silent : ∀ entry, ¬ States piece entry)
      (rest : Entries pieces entries) : Entries (piece :: pieces) entries

def Reads (header : List Char) (entries : List Entry) : Prop :=
  ∃ pieces, pieces ≠ [] ∧ (∀ piece ∈ pieces, ',' ∉ piece) ∧ header = [','].intercalate pieces ∧
    Entries pieces entries

theorem keyValue?_append {key : List Char} (before : '=' ∉ key) (value : List Char) :
    keyValue? (key ++ '=' :: value) = some (key, value) := by
  have other : ∀ c ∈ key, decide (c ≠ '=') = true := by
    intro c member
    exact decide_eq_true (fun same => before (same ▸ member))
  have rest : (key ++ '=' :: value).dropWhile (· ≠ '=') = '=' :: value := by
    rw [List.dropWhile_append_of_pos other]
    exact List.dropWhile_cons_of_neg (by decide)
  have start : (key ++ '=' :: value).takeWhile (· ≠ '=') = key := by
    rw [List.takeWhile_append_of_pos other, List.takeWhile_cons_of_neg (by decide), List.append_nil]
  unfold keyValue?
  simp only [rest, start]

theorem of_keyValue? {piece : List Char} {entry : Entry} (cut : keyValue? piece = some entry) :
    '=' ∉ entry.1 ∧ piece = entry.1 ++ '=' :: entry.2 := by
  unfold keyValue? at cut
  split at cut
  · next value rest =>
      obtain rfl := Option.some.inj cut
      constructor
      · intro member
        have other := List.mem_takeWhile_imp (p := fun c => decide (c ≠ '=')) member
        exact of_decide_eq_true other rfl
      · calc
          piece = piece.takeWhile (· ≠ '=') ++ piece.dropWhile (· ≠ '=') :=
            List.takeWhile_append_dropWhile.symm
          _ = piece.takeWhile (· ≠ '=') ++ '=' :: value := by rw [rest]
  · cases cut

def stated? (piece : List Char) : Option Entry := keyValue? (Text.trim piece)

theorem keyValues_eq_filterMap (header : List Char) :
    keyValues header = (pieces header).filterMap stated? := rfl

theorem states_iff {piece : List Char} {entry : Entry} :
    States piece entry ↔ stated? piece = some entry := by
  constructor
  · rintro ⟨before, trims⟩
    rw [stated?, Text.trim_of_trims trims]
    exact keyValue?_append before entry.2
  · intro cut
    obtain ⟨before, whole⟩ := of_keyValue? cut
    exact ⟨before, whole ▸ Text.trims_trim piece⟩

theorem entries_filterMap (pieces : List (List Char)) :
    Entries pieces (pieces.filterMap stated?) := by
  induction pieces with
  | nil => exact .nil
  | cons piece pieces ih =>
      cases cut : stated? piece with
      | none =>
          rw [List.filterMap_cons_none cut]
          refine .silent (fun entry stated => ?_) ih
          rw [states_iff, cut] at stated
          cases stated
      | some entry =>
          rw [List.filterMap_cons_some cut]
          exact .entry (states_iff.mpr cut) ih

theorem filterMap_of_entries {pieces : List (List Char)} {entries : List Entry}
    (read : Entries pieces entries) :
    pieces.filterMap stated? = entries := by
  induction read with
  | nil => rfl
  | entry stated _ ih => rw [List.filterMap_cons_some (states_iff.mp stated), ih]
  | @silent piece _ _ silent _ ih =>
      have cut : stated? piece = none :=
        Option.eq_none_iff_forall_ne_some.mpr fun entry cut => silent entry (states_iff.mpr cut)
      rw [List.filterMap_cons_none cut, ih]

theorem not_mem_of_mem_pieces {header piece : List Char} (member : piece ∈ pieces header) :
    ',' ∉ piece := by
  induction header generalizing piece with
  | nil =>
      obtain rfl := List.mem_singleton.mp member
      exact List.not_mem_nil
  | cons head tail ih =>
      unfold pieces at member ih
      rw [List.splitOn_cons_eq_if_modifyHead] at member
      split at member
      · rcases List.mem_cons.mp member with rfl | later
        · exact List.not_mem_nil
        · exact ih later
      · next other =>
          cases parts : tail.splitOn ',' with
          | nil => exact absurd parts (List.splitOn_ne_nil ',' tail)
          | cons first rest =>
              rw [parts, List.modifyHead_cons] at member
              rw [parts] at ih
              rcases List.mem_cons.mp member with rfl | later
              · rw [List.mem_cons, not_or]
                exact ⟨fun same => other (beq_iff_eq.mpr same.symm), ih List.mem_cons_self⟩
              · exact ih (List.mem_cons_of_mem first later)

theorem reads_keyValues (header : List Char) : Reads header (keyValues header) :=
  ⟨pieces header, List.splitOn_ne_nil ',' header, fun _ member => not_mem_of_mem_pieces member,
    (List.intercalate_splitOn ',').symm, entries_filterMap _⟩

theorem keyValues_of_reads {header : List Char} {entries : List Entry}
    (read : Reads header entries) : keyValues header = entries := by
  obtain ⟨parts, filled, apart, rfl, read⟩ := read
  rw [keyValues_eq_filterMap, pieces, List.splitOn_intercalate ',' apart filled]
  exact filterMap_of_entries read

theorem reads_iff {header : List Char} {entries : List Entry} :
    Reads header entries ↔ keyValues header = entries := by
  constructor
  · exact keyValues_of_reads
  · rintro rfl
    exact reads_keyValues header

theorem reads_intercalate {pieces : List (List Char)} (apart : ∀ piece ∈ pieces, ',' ∉ piece) :
    Reads ([','].intercalate pieces) (pieces.filterMap stated?) := by
  cases pieces with
  | nil => exact reads_keyValues []
  | cons piece pieces =>
      exact ⟨piece :: pieces, List.cons_ne_nil _ _, apart, rfl, entries_filterMap _⟩

def Plain (text : List Char) : Prop := ∀ c ∈ text, c ≠ ',' ∧ Text.isBlank c = false

theorem plain_nil : Plain [] := fun _ member => absurd member List.not_mem_nil

theorem plain_cons {c : Char} {text : List Char} :
    Plain (c :: text) ↔ (c ≠ ',' ∧ Text.isBlank c = false) ∧ Plain text := List.forall_mem_cons

theorem plain_of_decimal {text : List Char} {value : Int} (decimal : Text.Decimal text value) :
    Plain text := by
  have plain : ∀ {digits : List Char} {n : Nat}, Text.Digits digits n → Plain digits := by
    intro digits n number c member
    have digit := number.2.1 c member
    refine ⟨?_, Text.isBlank_of_isDigit digit⟩
    rintro rfl
    exact absurd digit (by decide)
  cases decimal with
  | unsigned digits _ => exact plain digits
  | plus digits _ => exact plain_cons.mpr ⟨by decide, plain digits⟩
  | minus digits _ => exact plain_cons.mpr ⟨by decide, plain digits⟩

theorem plain_hex (octets : List UInt8) : Plain (Text.hex octets) := by
  have plain : ∀ digit, digit < 16 →
      Nat.digitChar digit ≠ ',' ∧ Text.isBlank (Nat.digitChar digit) = false := by decide
  intro c member
  obtain ⟨octet, _, member⟩ := List.mem_flatMap.mp member
  simp only [Text.hexByte, List.mem_cons, List.not_mem_nil, or_false] at member
  rcases member with rfl | rfl
  · exact plain _ (Nat.mod_lt _ (by decide))
  · exact plain _ (Nat.mod_lt _ (by decide))

theorem plain_entry {key value : List Char} (plainKey : Plain key) (plainValue : Plain value) :
    Plain (key ++ '=' :: value) := by
  intro c member
  rcases List.mem_append.mp member with inKey | rest
  · exact plainKey c inKey
  · exact plain_cons.mpr ⟨by decide, plainValue⟩ c rest

theorem reads_signed {time signature : List Char} (plainTime : Plain time)
    (plainSignature : Plain signature) :
    Reads ('t' :: '=' :: time ++ ',' :: 'v' :: '1' :: '=' :: signature)
      [(['t'], time), (['v', '1'], signature)] := by
  have plainOne : Plain ['1'] := plain_cons.mpr ⟨by decide, plain_nil⟩
  have first : Plain (['t'] ++ '=' :: time) :=
    plain_entry (plain_cons.mpr ⟨by decide, plain_nil⟩) plainTime
  have second : Plain (['v', '1'] ++ '=' :: signature) :=
    plain_entry (plain_cons.mpr ⟨by decide, plainOne⟩) plainSignature
  refine ⟨[['t'] ++ '=' :: time, ['v', '1'] ++ '=' :: signature], List.cons_ne_nil _ _, ?_, ?_, ?_⟩
  · intro piece member comma
    rcases List.mem_pair.mp member with rfl | rfl
    · exact (first ',' comma).1 rfl
    · exact (second ',' comma).1 rfl
  · simp [List.intercalate]
  · refine .entry ⟨by simp, Text.trims_self fun c member => (first c member).2⟩ ?_
    exact .entry ⟨by simp, Text.trims_self fun c member => (second c member).2⟩ .nil

end UsageBilling.Signature
