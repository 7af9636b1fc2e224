import Mathlib.Data.List.DropRight
import Mathlib.Data.List.Flatten
import UsageBilling.Proofs.Text.Percents
import UsageBilling.Url
/-!
Paths below an address. Text that is written after an address, behind a slash, is cut at the first
question mark or number sign; its pieces between slashes are resolved from the folder of the address.
-/
namespace UsageBilling.Url

open Text

section Lists

variable {α : Type} {p : α → Bool} {stop : α}

theorem takeWhile_append_stop (first rest : List α) (stops : p stop = false) :
    (first ++ stop :: rest).takeWhile p = first.takeWhile p := by
  induction first with
  | nil => simp [stops]
  | cons value first ih => simp only [List.cons_append, List.takeWhile_cons, ih]

theorem dropWhile_append_stop (first rest : List α) (stops : p stop = false) :
    (first ++ stop :: rest).dropWhile p = first.dropWhile p ++ stop :: rest := by
  induction first with
  | nil => simp [stops]
  | cons value first ih =>
      simp only [List.cons_append, List.dropWhile_cons, ih]
      split <;> rfl

theorem rdropWhile_append_stop (first rest : List α) (stops : p stop = false) :
    (first ++ stop :: rest).rdropWhile p = first ++ stop :: rest.rdropWhile p := by
  unfold List.rdropWhile
  rw [List.reverse_append, List.reverse_cons, List.append_assoc, List.singleton_append,
    dropWhile_append_stop _ _ stops]
  simp

theorem mem_splitOnP {values piece : List α} (member : piece ∈ values.splitOnP p) :
    piece.Sublist values ∧ ∀ value ∈ piece, p value = false := by
  induction values generalizing piece with
  | nil => simp_all
  | cons value values ih =>
      rw [List.splitOnP_cons_eq_if_modifyHead] at member
      split at member
      · rcases List.mem_cons.mp member with rfl | later
        · simp
        · exact ⟨(ih later).1.cons value, (ih later).2⟩
      · rename_i passed
        obtain ⟨first, rest, split⟩ := List.exists_cons_of_ne_nil (List.splitOnP_ne_nil p values)
        rw [split] at ih member
        rcases List.mem_cons.mp member with rfl | later
        · obtain ⟨within, free⟩ := ih List.mem_cons_self
          refine ⟨within.cons_cons value, ?_⟩
          rintro other (_ | ⟨_, before⟩)
          · simpa using passed
          · exact free other before
        · obtain ⟨within, free⟩ := ih (List.mem_cons_of_mem _ later)
          exact ⟨within.cons value, free⟩

end Lists

def isEdge (c : Char) : Bool := c.toNat ≤ 0x20

def isDropped (c : Char) : Bool := c == '\t' || c == '\n' || c == '\r'

def ends (c : Char) : Bool := isSlash c || c == '?' || c == '#'

/-- The part of what follows an address that counts: its end is trimmed, and the fragment is cut off. -/
def shown (rest : List Char) : List Char :=
  ((rest.rdropWhile isEdge).filter fun c => !isDropped c).takeWhile (· ≠ '#')

def pathOf (rest : List Char) : List Char := (shown rest).takeWhile (· ≠ '?')

def queryIn (target : List Char) : Option String :=
  match target.dropWhile (· ≠ '?') with
  | '?' :: query => some (String.ofList (percentEncode keepsInQuery query))
  | _ => none

def ofRest? (scheme : String) (rest : List Char) : Option Url :=
  let authority := rest.takeWhile (!ends ·)
  let target := (rest.dropWhile (!ends ·)).takeWhile (· ≠ '#')
  if (host authority).isEmpty then none
  else some ⟨scheme, String.ofList authority, segments (target.takeWhile (· ≠ '?')), queryIn target⟩

theorem parse?_eq (text : String) : parse? text =
    (scheme? (cleaned text.toList)).bind fun read => ofRest? read.1 (read.2.dropWhile isSlash) := by
  unfold parse? ofRest?
  cases scheme? (cleaned text.toList) with
  | none => rfl
  | some read =>
      simp only [Option.bind_eq_bind, Option.bind_some]
      split
      · rename_i missing
        exact (if_pos missing).symm
      · rename_i found
        exact (if_neg found).symm

def walk (done : List String) (piece : List Char) : List String :=
  match withPoints piece with
  | ['.', '.'] => done.dropLast
  | ['.'] => done
  | _ => done ++ [String.ofList (percentEncode keepsInPath piece)]

theorem resolve_cons (piece : List Char) {rest : List (List Char)} (more : rest ≠ [])
    (done : List String) : resolve (piece :: rest) done = resolve rest (walk done piece) := by
  have last : rest.isEmpty = false := by simpa using more
  rw [resolve, walk]
  simp only [last, Bool.false_eq_true, if_false, List.append_nil]
  split <;> simp [*]

theorem resolve_append (first : List (List Char)) {rest : List (List Char)} (more : rest ≠ [])
    (done : List String) : resolve (first ++ rest) done = resolve rest (first.foldl walk done) := by
  induction first generalizing done with
  | nil => rfl
  | cons piece first ih =>
      have later : first ++ rest ≠ [] := by simp [more]
      rw [List.cons_append, resolve_cons piece later, ih, List.foldl_cons]

theorem resolve_nil_piece (done : List String) : resolve [[]] done = done ++ [""] := by
  simp [resolve, withPoints, percentEncode]

theorem cleaned_below (root rest : List Char) : cleaned (root ++ '/' :: rest) =
    (root.dropWhile isEdge).filter (fun c => !isDropped c) ++
      '/' :: (rest.rdropWhile isEdge).filter fun c => !isDropped c := by
  have slash : isEdge '/' = false := by decide
  change (((root ++ '/' :: rest).dropWhile isEdge).rdropWhile isEdge).filter (fun c => !isDropped c) = _
  rw [dropWhile_append_stop _ _ slash, rdropWhile_append_stop _ _ slash, List.filter_append]
  simp [isDropped]

theorem segments_below {path : List Char} (slash : ∀ c ∈ path.head?, isSlash c = true)
    (rest : List Char) : segments (path ++ '/' :: rest) =
      resolve (rest.splitOnP isSlash) (segments (path ++ ['/'])).dropLast := by
  have own : isSlash '/' = true := by decide
  cases path with
  | nil =>
      simp [segments, own, resolve_nil_piece]
  | cons c path =>
      have first : isSlash c = true := slash c rfl
      have below : ∀ rest, segments (c :: path ++ '/' :: rest) = resolve (rest.splitOnP isSlash)
          ((path.splitOnP isSlash).foldl walk []) := by
        intro rest
        simp only [segments, List.cons_append, first, if_true, List.splitOnP_append_cons _ _ own]
        exact resolve_append _ (List.splitOnP_ne_nil _ _) _
      rw [below rest, below []]
      simp [resolve_nil_piece]

section Below

variable {scheme : String} {home : Url}

theorem scheme?_eq_none {text : List Char} (none : ':' ∉ text) : scheme? text = Option.none := by
  have all : text.dropWhile (· ≠ ':') = [] := by
    rw [List.dropWhile_eq_nil_iff]
    intro c member
    exact decide_eq_true (ne_of_mem_of_not_mem member none)
  rw [scheme?, all]

theorem scheme?_append {before : List Char} (none : ':' ∉ before) (rest : List Char) :
    scheme? (before ++ ':' :: rest) =
      let scheme := String.ofList (before.map Char.toLower)
      if scheme = "http" ∨ scheme = "https" then some (scheme, rest) else Option.none := by
  have stop : decide (':' ≠ ':') = false := by decide
  have admitted : ∀ c ∈ before, decide (c ≠ ':') = true := fun c member =>
    decide_eq_true (ne_of_mem_of_not_mem member none)
  rw [scheme?, dropWhile_append_stop (p := (· ≠ ':')) _ _ stop,
    takeWhile_append_stop (p := (· ≠ ':')) _ _ stop, List.dropWhile_eq_nil_iff.mpr admitted,
    List.takeWhile_eq_self_iff.mpr admitted, List.nil_append]
  rfl

theorem scheme?_below {front after : List Char} (read : scheme? (front ++ ['/']) = some (scheme, after)) :
    ∃ kept, kept ⊆ front ∧ after = kept ++ ['/'] ∧
      ∀ rest, scheme? (front ++ '/' :: rest) = some (scheme, kept ++ '/' :: rest) := by
  by_cases inside : ':' ∈ front
  · obtain ⟨before, kept, rfl, outside⟩ := List.eq_append_cons_of_mem inside
    simp only [List.append_assoc, List.cons_append, scheme?_append outside,
      Option.ite_none_right_eq_some, Option.some.injEq, Prod.mk.injEq] at read ⊢
    obtain ⟨known, rfl, rfl⟩ := read
    refine ⟨kept, ?_, rfl, fun rest => ⟨known, rfl, rfl⟩⟩
    intro c member
    simp [member]
  · rw [scheme?_eq_none (by simpa using inside)] at read
    cases read

theorem ofRest?_append {front : List Char} (whole : ∀ c ∈ front, c ≠ '?' ∧ c ≠ '#') (rest : List Char) :
    ofRest? scheme (front ++ '/' :: rest) =
      if (host (front.takeWhile (!ends ·))).isEmpty then none
      else some ⟨scheme, String.ofList (front.takeWhile (!ends ·)),
        resolve (((rest.takeWhile (· ≠ '#')).takeWhile (· ≠ '?')).splitOnP isSlash)
          (segments (front.dropWhile (!ends ·) ++ ['/'])).dropLast,
        queryIn (rest.takeWhile (· ≠ '#'))⟩ := by
  have stop : (!ends '/') = false := by decide
  rw [ofRest?, takeWhile_append_stop (p := (!ends ·)) _ _ stop,
    dropWhile_append_stop (p := (!ends ·)) _ _ stop]
  have inFront : ∀ c ∈ front.dropWhile (!ends ·), c ≠ '?' ∧ c ≠ '#' := fun c member =>
    whole c ((List.dropWhile_suffix _).subset member)
  have slash : ∀ c ∈ (front.dropWhile (!ends ·)).head?, isSlash c = true := by
    intro c first
    have ended := List.head?_dropWhile_not (!ends ·) front
    have plain := inFront c (List.mem_of_mem_head? first)
    rw [Option.mem_def.mp first] at ended
    simpa [ends, plain] using ended
  generalize front.dropWhile (!ends ·) = path at inFront slash
  have target : (path ++ '/' :: rest).takeWhile (· ≠ '#') = path ++ '/' :: rest.takeWhile (· ≠ '#') := by
    rw [List.takeWhile_append_of_pos fun c member => decide_eq_true (inFront c member).2]
    rfl
  generalize rest.takeWhile (· ≠ '#') = rest at target
  have shortened : (path ++ '/' :: rest).takeWhile (· ≠ '?') = path ++ '/' :: rest.takeWhile (· ≠ '?') := by
    rw [List.takeWhile_append_of_pos fun c member => decide_eq_true (inFront c member).1]
    rfl
  have query : queryIn (path ++ '/' :: rest) = queryIn rest := by
    rw [queryIn, List.dropWhile_append_of_pos fun c member => decide_eq_true (inFront c member).1]
    rfl
  simp only [target, shortened, query]
  rw [segments_below slash]

theorem ofRest?_below {front : List Char} (whole : ∀ c ∈ front, c ≠ '?' ∧ c ≠ '#')
    (read : ofRest? scheme (front ++ ['/']) = some home) (rest : List Char) :
    ofRest? scheme (front ++ '/' :: rest) = some ⟨home.scheme, home.authority,
      resolve (((rest.takeWhile (· ≠ '#')).takeWhile (· ≠ '?')).splitOnP isSlash) home.path.dropLast,
      queryIn (rest.takeWhile (· ≠ '#'))⟩ := by
  rw [ofRest?_append whole, Option.ite_none_left_eq_some] at read ⊢
  obtain ⟨named, same⟩ := read
  obtain rfl := Option.some.inj same
  refine ⟨named, ?_⟩
  simp [List.splitOnP_nil, resolve_nil_piece]

/-- Text below an address is resolved from its path, and has its own query. -/
theorem parse?_below {root : List Char} (whole : ∀ c ∈ root, c ≠ '?' ∧ c ≠ '#')
    (parsed : parse? (String.ofList (root ++ ['/'])) = some home) (rest : List Char) :
    parse? (String.ofList (root ++ '/' :: rest)) = some ⟨home.scheme, home.authority,
      resolve ((pathOf rest).splitOnP isSlash) home.path.dropLast, queryIn (shown rest)⟩ := by
  rw [parse?_eq, String.toList_ofList, cleaned_below] at parsed ⊢
  set front := (root.dropWhile isEdge).filter (!isDropped ·)
  have inFront : front ⊆ root := fun c member =>
    (List.dropWhile_suffix _).subset (List.mem_filter.mp member).1
  obtain ⟨⟨scheme, after⟩, read, below⟩ := Option.bind_eq_some_iff.mp parsed
  obtain ⟨kept, inKept, rfl, schemes⟩ := scheme?_below read
  have hosted : kept.dropWhile isSlash ≠ [] := by
    intro slashes
    have own : isSlash '/' = true := by decide
    simp [List.dropWhile_append, slashes, own, ofRest?, host] at below
  have stripped : ∀ rest, (kept ++ '/' :: rest).dropWhile isSlash =
      kept.dropWhile isSlash ++ '/' :: rest := by
    intro rest
    rw [List.dropWhile_append, if_neg (by simpa using hosted)]
  rw [schemes, Option.bind_some]
  simp only [stripped] at below ⊢
  refine ofRest?_below ?_ below _
  intro c member
  exact whole c (inFront (inKept ((List.dropWhile_suffix _).subset member)))

end Below

section Pieces

def isDots (piece : List Char) : Bool := withPoints piece == ['.'] || withPoints piece == ['.', '.']

def segmentOf (piece : List Char) : String := String.ofList (percentEncode keepsInPath piece)

/-- What stands beyond the first segments is empty or has been a piece. -/
theorem mem_drop_resolve {pieces : List (List Char)} {done : List String} {n : Nat} {segment : String}
    (member : segment ∈ (resolve pieces done).drop n) :
    segment ∈ done.drop n ∨ segment = "" ∨
      ∃ piece ∈ pieces, isDots piece = false ∧ segment = segmentOf piece := by
  have beyond : ∀ {done added : List String}, segment ∈ (done ++ added).drop n →
      segment ∈ done.drop n ∨ segment ∈ added := by
    intro done added member
    rw [List.drop_append, List.mem_append] at member
    exact member.imp_right List.mem_of_mem_drop
  have atEnd : ∀ {rest : List (List Char)}, segment ∈ (if rest.isEmpty then [""] else []) →
      segment = "" := by
    intro rest member
    split at member
    · exact List.mem_singleton.mp member
    · cases member
  induction pieces generalizing done with
  | nil => exact .inl member
  | cons piece rest ih =>
      -- The piece goes up, stays, or becomes a segment.
      rw [resolve] at member
      split at member
      · rcases ih member with before | empty | ⟨piece, later, moved⟩
        · rcases beyond before with before | last
          · rw [List.dropLast_eq_take, List.drop_take] at before
            exact .inl (List.mem_of_mem_take before)
          · exact .inr (.inl (atEnd last))
        · exact .inr (.inl empty)
        · exact .inr (.inr ⟨piece, List.mem_cons_of_mem _ later, moved⟩)
      · rcases ih member with before | empty | ⟨piece, later, moved⟩
        · rcases beyond before with before | last
          · exact .inl before
          · exact .inr (.inl (atEnd last))
        · exact .inr (.inl empty)
        · exact .inr (.inr ⟨piece, List.mem_cons_of_mem _ later, moved⟩)
      · rename_i notUp notHere
        rcases ih member with before | empty | ⟨piece, later, moved⟩
        · rcases beyond before with before | own
          · exact .inl before
          · have still : isDots piece = false := by simpa [isDots] using ⟨notHere, notUp⟩
            exact .inr (.inr ⟨piece, List.mem_cons_self, still, List.mem_singleton.mp own⟩)
        · exact .inr (.inl empty)
        · exact .inr (.inr ⟨piece, List.mem_cons_of_mem _ later, moved⟩)

theorem resolve_of_not_isDots {pieces : List (List Char)} (still : ∀ piece ∈ pieces, isDots piece = false)
    (done : List String) : resolve pieces done = done ++ pieces.map segmentOf := by
  induction pieces generalizing done with
  | nil => simp [resolve]
  | cons piece rest ih =>
      have here := still piece List.mem_cons_self
      simp only [isDots, Bool.or_eq_false_iff, beq_eq_false_iff_ne] at here
      have next := ih fun piece member => still piece (List.mem_cons_of_mem _ member)
      rw [resolve]
      split
      · rename_i up
        exact absurd up here.2
      · rename_i stay
        exact absurd stay here.1
      · rw [next, List.map_cons, List.append_assoc]
        rfl

theorem withPoints_eq_self {text : List Char} (free : hasTriple (utf8 text) = false) :
    withPoints text = text := by
  fun_induction withPoints text with
  | case1 rest ih => cases free
  | case2 rest ih => cases free
  | case3 c rest _ _ ih =>
      rw [utf8_cons] at free
      rw [ih (hasTriple_append_right free)]
  | case4 => rfl

theorem keepsTriples_inPath : KeepsTriples (keptOctet keepsInPath) where
  percent := by decide
  digits := forall_octet (by decide +kernel)

theorem percentDecode_segmentOf (piece : List Char) :
    percentDecode (bytes (segmentOf piece)) = percentDecode (utf8 piece) := by
  have ascii : ∀ c, keepsInPath c = true → c.toNat < 0x80 := by
    intro c kept
    simp only [keepsInPath, isVisibleAscii, Bool.and_eq_true, decide_eq_true_eq] at kept
    omega
  rw [segmentOf, bytes_ofList, utf8_percentEncode ascii, percentDecode_spelled keepsTriples_inPath]

def isInner (c : Char) : Bool := c ∉ ['/', '\\', '?', '#', '\t', '\n', '\r']

theorem isInner_iff {c : Char} :
    isInner c = true ↔ isSlash c = false ∧ (c ≠ '?' ∧ c ≠ '#') ∧ isDropped c = false := by
  simp only [isInner, isSlash, isDropped, List.mem_cons, List.not_mem_nil, or_false, decide_eq_true_eq,
    Bool.or_eq_false_iff, beq_eq_false_iff_ne, not_or, ne_eq]
  tauto

theorem pathOf_eq (rest : List Char) : pathOf rest =
    ((rest.rdropWhile isEdge).filter (!isDropped ·)).takeWhile fun c => c ≠ '?' ∧ c ≠ '#' := by
  rw [pathOf, shown, List.takeWhile_takeWhile]
  simp

theorem isInner_of_mem {rest piece : List Char} (member : piece ∈ (pathOf rest).splitOnP isSlash) :
    ∀ c ∈ piece, isInner c = true := by
  obtain ⟨within, noSlash⟩ := mem_splitOnP member
  intro c inside
  have shown := within.subset inside
  rw [pathOf_eq] at shown
  have kept := List.mem_takeWhile_imp shown
  have left := (List.mem_filter.mp ((List.takeWhile_prefix _).subset shown)).2
  exact isInner_iff.mpr ⟨noSlash c inside, of_decide_eq_true kept, by simpa using left⟩

theorem sublist_of_mem_below {rest last piece : List Char} (filled : last ≠ [])
    (inner : ∀ c ∈ last, isInner c = true ∧ isEdge c = false)
    (member : piece ∈ (pathOf (rest ++ '/' :: last)).splitOnP isSlash) :
    piece.Sublist rest ∨ piece = last := by
  have untrimmed : (rest ++ '/' :: last).rdropWhile isEdge = rest ++ '/' :: last := by
    rw [List.rdropWhile_eq_self_iff]
    intro _
    rw [List.getLast_append_of_ne_nil _ (by simp), List.getLast_cons filled]
    simpa using (inner _ (List.getLast_mem filled)).2
  have own : ('/' :: last).filter (!isDropped ·) = '/' :: last := by
    rw [List.filter_eq_self]
    rintro c (_ | ⟨_, inside⟩)
    · decide
    · simp [(isInner_iff.mp (inner c inside).1).2.2]
  have passed : ∀ c ∈ '/' :: last, decide (c ≠ '?' ∧ c ≠ '#') = true := by
    rintro c (_ | ⟨_, inside⟩)
    · decide
    · exact decide_eq_true (isInner_iff.mp (inner c inside).1).2.1
  rw [pathOf_eq, untrimmed, List.filter_append, own, List.takeWhile_append] at member
  split at member
  · rw [List.takeWhile_eq_self_iff.mpr passed,
      List.splitOnP_append_cons _ _ (by decide : isSlash '/' = true),
      List.splitOnP_eq_singleton fun c inside => (isInner_iff.mp (inner c inside).1).1,
      List.mem_append, List.mem_singleton] at member
    exact member.imp_left fun before => (mem_splitOnP before).1.trans List.filter_sublist
  · exact .inl ((mem_splitOnP member).1.trans ((List.takeWhile_sublist _).trans List.filter_sublist))

theorem sublist_of_mem {rest piece : List Char} (member : piece ∈ (pathOf rest).splitOnP isSlash) :
    piece.Sublist rest := by
  have path : (pathOf rest).Sublist rest := by
    rw [pathOf_eq]
    exact (List.takeWhile_sublist _).trans
      (List.filter_sublist.trans (List.rdropWhile_prefix isEdge _).sublist)
  exact (mem_splitOnP member).1.trans path

theorem isEdge_getLast_of_mem {rest : List Char} (member : rest ∈ (pathOf rest).splitOnP isSlash) :
    ∀ c ∈ rest.getLast?, isEdge c = false := by
  have path : (pathOf rest).Sublist (rest.rdropWhile isEdge) := by
    rw [pathOf_eq]
    exact (List.takeWhile_sublist _).trans List.filter_sublist
  have whole : rest.rdropWhile isEdge = rest :=
    (List.rdropWhile_prefix isEdge rest).sublist.antisymm ((mem_splitOnP member).1.trans path)
  intro c last
  obtain ⟨filled, rfl⟩ := List.mem_getLast?_eq_getLast last
  simpa using List.rdropWhile_eq_self_iff.mp whole filled

theorem eq_of_sublist_of_le {piece text : List Char} (within : piece.Sublist text)
    (long : (utf8 text).length ≤ (utf8 piece).length) : piece = text := by
  have octets : (utf8 piece).Sublist (utf8 text) := within.flatMap _
  exact utf8_inj (octets.eq_of_length_le long)

theorem shown_eq_self {rest : List Char}
    (kept : ∀ c ∈ rest, (c ≠ '?' ∧ c ≠ '#') ∧ isDropped c = false)
    (edge : ∀ c ∈ rest.getLast?, isEdge c = false) :
    shown rest = rest ∧ pathOf rest = rest ∧ queryIn (shown rest) = none := by
  have untrimmed : rest.rdropWhile isEdge = rest := by
    rw [List.rdropWhile_eq_self_iff]
    intro filled
    simpa using edge _ (List.getLast_mem_getLast? filled)
  have all : shown rest = rest := by
    rw [shown, untrimmed, List.filter_eq_self.mpr fun c member => by simp [(kept c member).2],
      List.takeWhile_eq_self_iff.mpr fun c member => by simp [(kept c member).1.2]]
  refine ⟨all, ?_, ?_⟩
  · rw [pathOf, all, List.takeWhile_eq_self_iff.mpr fun c member => by simp [(kept c member).1.1]]
  · rw [all, queryIn, List.dropWhile_eq_nil_iff.mpr fun c member => by simp [(kept c member).1.1]]

end Pieces

end UsageBilling.Url
