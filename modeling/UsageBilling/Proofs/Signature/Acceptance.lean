import UsageBilling.Proofs.Signature.Header
import UsageBilling.Proofs.Text.Decimals
/-!
Which headers are accepted. The answer to a header follows from what it states: from the last time and
from the candidates, and from nothing else.
-/
namespace UsageBilling.Signature

/-- `value` is what `entries` state of `key` last. -/
def LastOf (key : List Char) (entries : List Entry) (value : List Char) : Prop :=
  ∃ before after, entries = before ++ (key, value) :: after ∧ ∀ entry ∈ after, entry.1 ≠ key

def candidatesOf (entries : List Entry) : List (List Char) :=
  (entries.filter fun entry => entry.1 = ['v', '1'] ∧ entry.2 ≠ []).map Prod.snd

def matters (entry : Entry) : Bool := entry.1 = ['t'] ∨ entry.1 = ['v', '1'] ∧ entry.2 ≠ []

def signatureOf (secret : String) (moment : Int) (payload : List UInt8) : List Char :=
  Text.hex (Digest.hmacSha256 (Text.bytes secret)
    (Text.bytes (toString moment) ++ Text.bytes "." ++ payload))

def signedHeader (secret : String) (moment : Int) (payload : List UInt8) : String :=
  "t=" ++ toString moment ++ ",v1=" ++ generate secret moment payload

def joined (pieces : List (List Char)) : String := String.ofList ([','].intercalate pieces)

section

variable (secret : String) (payload : List UInt8) (now tolerance : Int) (entries : List Entry)

/-- The answers to a header that states `entries`. The refusals stand in their order: each of them
presupposes that those before it do not apply. -/
inductive Verdict : Except Refusal Header → Prop where
  | noTime (missing : ∀ raw, LastOf ['t'] entries raw → raw = []) :
      Verdict (.error (.missing "t"))
  | noCandidate {raw} (time : LastOf ['t'] entries raw) (filled : raw ≠ [])
      (missing : candidatesOf entries = []) : Verdict (.error (.missing "v1"))
  | badTime {raw} (time : LastOf ['t'] entries raw) (filled : raw ≠ [])
      (present : candidatesOf entries ≠ []) (unreadable : ∀ moment, ¬ Text.Decimal raw moment) :
      Verdict (.error (.badTimestamp (String.ofList raw)))
  | stale {raw moment} (time : LastOf ['t'] entries raw) (decimal : Text.Decimal raw moment)
      (present : candidatesOf entries ≠ []) (far : tolerance.natAbs < (now - moment).natAbs) :
      Verdict (.error (.stale (now - moment).natAbs))
  | mismatch {raw moment} (time : LastOf ['t'] entries raw) (decimal : Text.Decimal raw moment)
      (present : candidatesOf entries ≠ []) (near : (now - moment).natAbs ≤ tolerance.natAbs)
      (other : signatureOf secret moment payload ∉ candidatesOf entries) :
      Verdict (.error .mismatch)
  | accepted {raw moment} (time : LastOf ['t'] entries raw) (decimal : Text.Decimal raw moment)
      (near : (now - moment).natAbs ≤ tolerance.natAbs)
      (signed : signatureOf secret moment payload ∈ candidatesOf entries) :
      Verdict (.ok ⟨moment, (candidatesOf entries).map String.ofList⟩)

end

theorem length_sha256 (message : List UInt8) : (Digest.sha256 message).length = 32 := by
  simp only [Digest.sha256, Digest.HashState.words, Digest.octetsOf, List.flatMap_cons,
    List.flatMap_nil, List.length_append, List.length_cons, List.length_nil]

theorem length_signatureOf (secret : String) (moment : Int) (payload : List UInt8) :
    (signatureOf secret moment payload).length = 64 := by
  unfold signatureOf Text.hex
  rw [List.length_flatMap]
  have two : (fun octet => (Text.hexByte octet).length) = fun _ => 2 := rfl
  rw [two, List.map_const', List.sum_replicate_nat, Digest.hmacSha256, length_sha256]

theorem generate_eq_signatureOf (secret : String) (moment : Int) (payload : List UInt8) :
    generate secret moment payload = String.ofList (signatureOf secret moment payload) := rfl

section

variable {secret header : String} {payload : List UInt8} {now tolerance : Int}
  {entries : List Entry}

theorem getLast?_of_lastOf {key value : List Char} (last : LastOf key entries value) :
    ((entries.filter fun entry => entry.1 = key).map Prod.snd).getLast? = some value := by
  obtain ⟨before, after, rfl, none⟩ := last
  have rest : (after.filter fun entry => entry.1 = key) = [] := by
    rw [List.filter_eq_nil_iff]
    exact fun entry member => by simpa using none entry member
  have here : (((key, value) :: after).filter fun entry => entry.1 = key) = [(key, value)] := by
    rw [List.filter_cons_of_pos (by exact decide_eq_true rfl), rest]
  rw [List.filter_append, here, List.map_append]
  exact List.getLast?_concat

theorem exists_lastOf {key : List Char} (present : ∃ entry ∈ entries, entry.1 = key) :
    ∃ value, LastOf key entries value := by
  induction entries with
  | nil => simp at present
  | cons head tail ih =>
      by_cases later : ∃ entry ∈ tail, entry.1 = key
      · obtain ⟨value, before, after, rfl, none⟩ := ih later
        exact ⟨value, head :: before, after, rfl, none⟩
      · obtain ⟨entry, member, same⟩ := present
        rcases List.mem_cons.mp member with rfl | member
        · subst same
          refine ⟨entry.2, [], tail, rfl, fun other found same => later ⟨other, found, same⟩⟩
        · exact absurd ⟨entry, member, same⟩ later

theorem valuesOf_of_reads (read : Reads header.toList entries) (key : List Char) :
    valuesOf key header.toList = (entries.filter fun entry => entry.1 = key).map Prod.snd := by
  rw [valuesOf, keyValues_of_reads read]

theorem rawTime_of_lastOf (read : Reads header.toList entries) {raw : List Char}
    (time : LastOf ['t'] entries raw) : (valuesOf ['t'] header.toList).getLast?.getD [] = raw := by
  rw [valuesOf_of_reads read, getLast?_of_lastOf time]
  rfl

theorem rawTime_eq_nil (read : Reads header.toList entries)
    (missing : ∀ raw, LastOf ['t'] entries raw → raw = []) :
    (valuesOf ['t'] header.toList).getLast?.getD [] = [] := by
  by_cases present : ∃ entry ∈ entries, entry.1 = ['t']
  · obtain ⟨raw, time⟩ := exists_lastOf present
    rw [rawTime_of_lastOf read time, missing raw time]
  · have none : (entries.filter fun entry => entry.1 = ['t']) = [] := by
      rw [List.filter_eq_nil_iff]
      exact fun entry member => by simpa using fun same => present ⟨entry, member, same⟩
    rw [valuesOf_of_reads read, none]
    rfl

theorem candidatesOf_of_reads (read : Reads header.toList entries) :
    (valuesOf ['v', '1'] header.toList).filter (· ≠ []) = candidatesOf entries := by
  rw [valuesOf_of_reads read, List.filter_map, List.filter_filter, candidatesOf]
  congr 2
  funext entry
  simp [and_comm]

theorem parseHeader_noTime (read : Reads header.toList entries)
    (missing : ∀ raw, LastOf ['t'] entries raw → raw = []) :
    parseHeader header = .error (.missing "t") := by
  unfold parseHeader
  simp only [rawTime_eq_nil read missing, List.isEmpty_nil, if_true]

theorem parseHeader_noCandidate (read : Reads header.toList entries) {raw : List Char}
    (time : LastOf ['t'] entries raw) (filled : raw ≠ []) (missing : candidatesOf entries = []) :
    parseHeader header = .error (.missing "v1") := by
  have some := mt List.isEmpty_iff.mp filled
  unfold parseHeader
  simp only [rawTime_of_lastOf read time, candidatesOf_of_reads read, if_neg some, missing,
    List.isEmpty_nil, if_true]

theorem parseHeader_of_present (read : Reads header.toList entries) {raw : List Char}
    (time : LastOf ['t'] entries raw) (filled : raw ≠ []) (present : candidatesOf entries ≠ []) :
    parseHeader header = match Text.readSigned? raw with
      | none => .error (.badTimestamp (String.ofList raw))
      | some moment => .ok ⟨moment, (candidatesOf entries).map String.ofList⟩ := by
  have some := mt List.isEmpty_iff.mp filled
  have other := mt List.isEmpty_iff.mp present
  unfold parseHeader
  cases found : Text.readSigned? raw with
  | none =>
      simp only [rawTime_of_lastOf read time, candidatesOf_of_reads read, if_neg some, if_neg other,
        found]
  | some moment =>
      simp only [rawTime_of_lastOf read time, candidatesOf_of_reads read, if_neg some, if_neg other,
        found]

theorem verify_of_error {refusal : Refusal} (parsed : parseHeader header = .error refusal) :
    verify secret header payload now tolerance = .error refusal := by
  unfold verify
  rw [parsed]
  rfl

theorem verify_of_ok {parsed : Header} (read : parseHeader header = .ok parsed) :
    verify secret header payload now tolerance =
      if tolerance.natAbs < (now - parsed.timestamp).natAbs then
        .error (.stale (now - parsed.timestamp).natAbs)
      else if generate secret parsed.timestamp payload ∈ parsed.candidates then .ok parsed
      else .error .mismatch := by
  unfold verify
  rw [read]
  change (if tolerance.natAbs < (now - parsed.timestamp).natAbs then _ else _) = _
  split
  · rfl
  · simp only [List.contains_iff_mem]
    rfl

theorem generate_mem_iff {moment : Int} {candidates : List (List Char)} :
    generate secret moment payload ∈ candidates.map String.ofList ↔
      signatureOf secret moment payload ∈ candidates := by
  rw [generate_eq_signatureOf, List.mem_map_of_injective fun _ _ => String.ofList_injective]

theorem verify_of_decimal (read : Reads header.toList entries) {raw : List Char} {moment : Int}
    (time : LastOf ['t'] entries raw) (decimal : Text.Decimal raw moment)
    (present : candidatesOf entries ≠ []) :
    verify secret header payload now tolerance =
      if tolerance.natAbs < (now - moment).natAbs then .error (.stale (now - moment).natAbs)
      else if signatureOf secret moment payload ∈ candidatesOf entries then
        .ok ⟨moment, (candidatesOf entries).map String.ofList⟩
      else .error .mismatch := by
  have parsed := parseHeader_of_present read time decimal.ne_nil present
  rw [Text.readSigned?_of_decimal decimal] at parsed
  rw [verify_of_ok parsed]
  simp only [generate_mem_iff]

theorem verify_of_verdict (read : Reads header.toList entries) {result : Except Refusal Header}
    (verdict : Verdict secret payload now tolerance entries result) :
    verify secret header payload now tolerance = result := by
  cases verdict with
  | noTime missing => exact verify_of_error (parseHeader_noTime read missing)
  | noCandidate time filled missing =>
      exact verify_of_error (parseHeader_noCandidate read time filled missing)
  | badTime time filled present unreadable =>
      apply verify_of_error
      rw [parseHeader_of_present read time filled present, Option.eq_none_iff_forall_ne_some.mpr
        fun moment found => unreadable moment (Text.decimal_of_readSigned? found)]
  | stale time decimal present far =>
      rw [verify_of_decimal read time decimal present, if_pos far]
  | mismatch time decimal present near other =>
      rw [verify_of_decimal read time decimal present, if_neg (Nat.not_lt.mpr near), if_neg other]
  | accepted time decimal near signed =>
      rw [verify_of_decimal read time decimal (List.ne_nil_of_mem signed),
        if_neg (Nat.not_lt.mpr near), if_pos signed]

theorem exists_verdict (secret : String) (payload : List UInt8) (now tolerance : Int)
    (entries : List Entry) : ∃ result, Verdict secret payload now tolerance entries result := by
  -- in the order of the checks
  by_cases missing : ∀ raw, LastOf ['t'] entries raw → raw = []
  · exact ⟨_, .noTime missing⟩
  push Not at missing
  obtain ⟨raw, time, filled⟩ := missing
  by_cases present : candidatesOf entries = []
  · exact ⟨_, .noCandidate time filled present⟩
  by_cases unreadable : ∀ moment, ¬ Text.Decimal raw moment
  · exact ⟨_, .badTime time filled present unreadable⟩
  push Not at unreadable
  obtain ⟨moment, decimal⟩ := unreadable
  rcases Nat.lt_or_ge tolerance.natAbs (now - moment).natAbs with far | near
  · exact ⟨_, .stale time decimal present far⟩
  by_cases signed : signatureOf secret moment payload ∈ candidatesOf entries
  · exact ⟨_, .accepted time decimal near signed⟩
  · exact ⟨_, .mismatch time decimal present near signed⟩

theorem verify_iff_verdict (read : Reads header.toList entries) (result : Except Refusal Header) :
    verify secret header payload now tolerance = result ↔
      Verdict secret payload now tolerance entries result := by
  constructor
  · rintro rfl
    obtain ⟨result, verdict⟩ := exists_verdict secret payload now tolerance entries
    rwa [verify_of_verdict read verdict]
  · exact verify_of_verdict read

theorem filter_matters_time (entries : List Entry) :
    ((entries.filter matters).filter fun entry => entry.1 = ['t']) =
      entries.filter fun entry => entry.1 = ['t'] := by
  rw [List.filter_filter]
  congr 1
  funext entry
  by_cases time : entry.1 = ['t'] <;> simp [matters, time]

theorem candidatesOf_filter_matters (entries : List Entry) :
    candidatesOf (entries.filter matters) = candidatesOf entries := by
  rw [candidatesOf, List.filter_filter, candidatesOf]
  congr 2
  funext entry
  by_cases candidate : entry.1 = ['v', '1'] ∧ entry.2 ≠ []
  · simp [matters, candidate]
  · simp [candidate]

theorem verify_congr {other : String} {others : List Entry} (read : Reads header.toList entries)
    (otherRead : Reads other.toList others) (same : others.filter matters = entries.filter matters) :
    verify secret other payload now tolerance = verify secret header payload now tolerance := by
  have times : valuesOf ['t'] other.toList = valuesOf ['t'] header.toList := by
    rw [valuesOf_of_reads otherRead, valuesOf_of_reads read, ← filter_matters_time others, same,
      filter_matters_time]
  have candidates : (valuesOf ['v', '1'] other.toList).filter (· ≠ []) =
      (valuesOf ['v', '1'] header.toList).filter (· ≠ []) := by
    rw [candidatesOf_of_reads otherRead, candidatesOf_of_reads read,
      ← candidatesOf_filter_matters others, same, candidatesOf_filter_matters]
  have parsed : parseHeader other = parseHeader header := by
    unfold parseHeader
    rw [times, candidates]
  unfold verify
  rw [parsed]

theorem reads_joined {pieces : List (List Char)} (apart : ∀ piece ∈ pieces, ',' ∉ piece) :
    Reads (joined pieces).toList (pieces.filterMap stated?) := by
  rw [joined, String.toList_ofList]
  exact reads_intercalate apart

/-- A piece that states nothing that matters makes no difference, wherever it stands. -/
theorem verify_insert {before after : List (List Char)} {piece : List Char}
    (apart : ∀ other ∈ before ++ piece :: after, ',' ∉ other)
    (idle : ∀ entry, States piece entry → matters entry = false) :
    verify secret (joined (before ++ piece :: after)) payload now tolerance =
      verify secret (joined (before ++ after)) payload now tolerance := by
  have fewer : ∀ other ∈ before ++ after, ',' ∉ other := by
    intro other member
    apply apart other
    rw [List.mem_append] at member ⊢
    exact member.imp_right (List.mem_cons_of_mem piece)
  apply verify_congr (reads_joined fewer) (reads_joined apart)
  cases stated : stated? piece with
  | none => rw [List.filterMap_append, List.filterMap_cons_none stated, List.filterMap_append]
  | some entry =>
      have silent := Bool.eq_false_iff.mp (idle entry (states_iff.mpr stated))
      rw [List.filterMap_append, List.filterMap_cons_some stated, List.filterMap_append,
        List.filter_append, List.filter_cons_of_neg silent, List.filter_append]

theorem Verdict.skew_le {skew : Nat} (range : Quantity.InRange now)
    (verdict : Verdict secret payload now tolerance entries (.error (.stale skew))) :
    skew ≤ Text.greatestUnsigned64 := by
  cases verdict with
  | stale time decimal present far =>
      have bounds := decimal.inRange
      simp only [Quantity.InRange, Quantity.least, Quantity.greatest, Text.greatestUnsigned64] at *
      omega

theorem reads_signedHeader {moment : Int} (range : Quantity.InRange moment) :
    Reads (signedHeader secret moment payload).toList
      [(['t'], (toString moment).toList), (['v', '1'], signatureOf secret moment payload)] := by
  have whole : (signedHeader secret moment payload).toList =
      't' :: '=' :: (toString moment).toList ++
        ',' :: 'v' :: '1' :: '=' :: signatureOf secret moment payload := by
    simp only [signedHeader, generate_eq_signatureOf, String.toList_append, String.toList_ofList,
      String.reduceToList, List.cons_append, List.nil_append, List.append_assoc]
  rw [whole]
  exact reads_signed (plain_of_decimal (Text.decimal_toString range)) (plain_hex _)

theorem verify_signedHeader {moment : Int} (range : Quantity.InRange moment)
    (near : (now - moment).natAbs ≤ tolerance.natAbs) :
    verify secret (signedHeader secret moment payload) payload now tolerance =
      .ok ⟨moment, [generate secret moment payload]⟩ := by
  have filled : signatureOf secret moment payload ≠ [] := by
    apply List.ne_nil_of_length_pos
    rw [length_signatureOf]
    decide
  have candidates : candidatesOf [(['t'], (toString moment).toList),
      (['v', '1'], signatureOf secret moment payload)] = [signatureOf secret moment payload] := by
    simp [candidatesOf, filled]
  have time : LastOf ['t'] [(['t'], (toString moment).toList),
      (['v', '1'], signatureOf secret moment payload)] (toString moment).toList :=
    ⟨[], [(['v', '1'], signatureOf secret moment payload)], rfl, by simp⟩
  have verdict : Verdict secret payload now tolerance _ _ :=
    .accepted time (Text.decimal_toString range) near (candidates ▸ List.mem_singleton_self _)
  rw [candidates] at verdict
  exact verify_of_verdict (reads_signedHeader range) verdict

end

/-- Every header states something, and its answer is the verdict on what it states. Idle pieces make
no difference, the skew of a stale time fits into 64 bits, and what has been signed is accepted. -/
theorem verify_exact (secret header : String) (payload : List UInt8) (now tolerance : Int) :
    (∃ entries, Reads header.toList entries) ∧
    (∀ entries, Reads header.toList entries → ∀ result,
      verify secret header payload now tolerance = result ↔
        Verdict secret payload now tolerance entries result) ∧
    (∀ before piece after, (∀ other ∈ before ++ piece :: after, ',' ∉ other) →
      (∀ entry, States piece entry → matters entry = false) →
      verify secret (joined (before ++ piece :: after)) payload now tolerance =
        verify secret (joined (before ++ after)) payload now tolerance) ∧
    (Quantity.InRange now → ∀ skew,
      verify secret header payload now tolerance = .error (.stale skew) →
        skew ≤ Text.greatestUnsigned64) ∧
    ∀ moment, Quantity.InRange moment → (now - moment).natAbs ≤ tolerance.natAbs →
      verify secret (signedHeader secret moment payload) payload now tolerance =
        .ok ⟨moment, [generate secret moment payload]⟩ := by
  refine ⟨⟨_, reads_keyValues header.toList⟩, ?_, ?_, ?_, ?_⟩
  · intro entries read result
    exact verify_iff_verdict read result
  · intro before piece after apart idle
    exact verify_insert apart idle
  · intro range skew stale
    exact ((verify_iff_verdict (reads_keyValues header.toList) _).mp stale).skew_le range
  · intro moment range near
    exact verify_signedHeader range near

/-- A header with a sign, zeros, blanks and spare pieces, which is the same without one of them, the
most stale of all times, and a time at the end of the range. -/
theorem verify_exact_spares :
    verify "whsec" ("v0=1, t=+05 ,v1=,v1=00," ++
        "v1=504eafb6f670ee93fd73159400bc63850c1ca0e71517f9461b0c6e0d5eff4b86") [0x7b, 0x7d] 9 (-4) =
      .ok ⟨5, ["00", "504eafb6f670ee93fd73159400bc63850c1ca0e71517f9461b0c6e0d5eff4b86"]⟩ ∧
    verify "whsec" (joined (["t=5".toList] ++ "v1=".toList :: ["v1=00".toList])) [] 5 0 =
      verify "whsec" (joined (["t=5".toList] ++ ["v1=00".toList])) [] 5 0 ∧
    verify "whsec" "t=-9223372036854775808,v1=00" [] 9223372036854775807 300 =
      .error (.stale 18446744073709551615) ∧
    18446744073709551615 ≤ Text.greatestUnsigned64 ∧
    verify "whsec" (signedHeader "whsec" 9223372036854775807 []) [] 9223372036854775807 0 =
      .ok ⟨9223372036854775807, [generate "whsec" 9223372036854775807 []]⟩ := by
  have accepted := ((verify_exact "whsec" ("v0=1, t=+05 ,v1=,v1=00," ++
      "v1=504eafb6f670ee93fd73159400bc63850c1ca0e71517f9461b0c6e0d5eff4b86") [0x7b, 0x7d] 9 (-4)).2.1
    [(['v', '0'], ['1']), (['t'], ['+', '0', '5']), (['v', '1'], []), (['v', '1'], ['0', '0']),
      (['v', '1'], "504eafb6f670ee93fd73159400bc63850c1ca0e71517f9461b0c6e0d5eff4b86".toList)]
    (reads_iff.mpr (by decide +kernel)) _).mpr
    (.accepted ⟨[(['v', '0'], ['1'])], _, rfl, by decide +kernel⟩
      (Text.decimal_of_readSigned?
        (show Text.readSigned? ['+', '0', '5'] = some 5 by decide +kernel))
      (by decide) (by decide +kernel))
  have stale := ((verify_exact "whsec" "t=-9223372036854775808,v1=00" [] 9223372036854775807 300).2.1
    [(['t'], "-9223372036854775808".toList), (['v', '1'], ['0', '0'])]
    (reads_iff.mpr (by decide +kernel)) _).mpr
    (.stale ⟨[], _, rfl, by decide⟩
      (Text.decimal_of_readSigned? (show Text.readSigned? "-9223372036854775808".toList =
        some (-9223372036854775808) by decide +kernel))
      (by decide) (by decide))
  refine ⟨accepted.trans (by decide +kernel), ?_, stale, ?_, ?_⟩
  · refine (verify_exact "whsec" "" [] 5 0).2.2.1 _ _ _ (by decide +kernel) (fun entry states => ?_)
    have idle : stated? "v1=".toList = some (['v', '1'], []) := by decide +kernel
    obtain rfl := Option.some.inj (idle.symm.trans (states_iff.mp states))
    decide
  · exact (verify_exact "whsec" "t=-9223372036854775808,v1=00" [] 9223372036854775807 300).2.2.2.1
      (by decide) _ stale
  · exact (verify_exact "whsec" "" [] 9223372036854775807 0).2.2.2.2 _ (by decide) (by decide)

end UsageBilling.Signature
