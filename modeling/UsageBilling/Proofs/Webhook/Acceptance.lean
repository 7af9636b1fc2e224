import UsageBilling.Http.Handlers
import UsageBilling.Proofs.Signature.Acceptance
/-!
Which requests are accepted as webhooks, and under which status the others are turned away.
-/
namespace UsageBilling

namespace Signature

theorem reads_of_blank {header : List Char} (blank : Text.trim header = []) : Reads header [] := by
  obtain ⟨_, left, right, leftBlank, rightBlank, whole⟩ := Text.trim_eq_iff.mp blank
  have noComma : ',' ∉ header := by
    rw [whole, List.append_nil, List.mem_append]
    rintro (inLeft | inRight)
    · exact absurd (leftBlank ',' inLeft) (by decide)
    · exact absurd (rightBlank ',' inRight) (by decide)
  have read := reads_intercalate (List.forall_mem_singleton.mpr noComma)
  have silent : stated? header = none := by
    unfold stated?
    rw [blank]
    rfl
  rwa [List.intercalate_singleton, List.filterMap_cons_none silent, List.filterMap_nil] at read

theorem verify_of_blank {header : String} (blank : Text.isBlankText header = true) (secret : String)
    (payload : List UInt8) (now tolerance : Int) :
    verify secret header payload now tolerance = .error (.missing "t") := by
  have read := reads_of_blank (List.isEmpty_iff.mp blank)
  apply verify_of_error
  apply parseHeader_noTime read
  rintro raw ⟨before, after, whole, _⟩
  exact absurd whole (by simp)

end Signature

namespace Webhook

open Http (Request)

/-- The request brings the text along as its signature. A header that is not visible text counts for
nothing, and hides the other one all the same. -/
def Bears (request : Request) (header : String) : Prop :=
  Http.isVisibleText header ∧ (request.header? "signature" = some header ∨
    request.header? "signature" = none ∧ request.header? "stripe-signature" = some header)

section

variable (settings : Settings) (request : Request) (now : Instant)

def Verdict (result : Except Signature.Refusal Signature.Header) : Prop :=
  ∃ header, Bears request header ∧
    Signature.verify settings.secret header request.body now.seconds settings.toleranceSecs = result

structure Accepts (event : Event) : Prop where
  filled : request.body ≠ []
  signed : settings.secret = "" ∨ ∃ header, Verdict settings request now (.ok header)
  decoded : Event.reader.run request.body = .ok event

/-- The request has a signature that can be read but does not hold. -/
structure Unauthorized : Prop where
  filled : request.body ≠ []
  guarded : settings.secret ≠ ""
  refused : Verdict settings request now (.error .mismatch) ∨
    ∃ skew, Verdict settings request now (.error (.stale skew))

end

section

variable {settings : Settings} {request : Request} {now : Instant}

theorem signatureOf_eq_some_iff {header : String} :
    Http.signatureOf request = some header ↔ Bears request header := by
  unfold Http.signatureOf Bears
  rw [Option.filter_eq_some_iff, and_comm]
  cases request.header? "signature" <;> simp

theorem Verdict.unique {result other : Except Signature.Refusal Signature.Header}
    (verdict : Verdict settings request now result) (second : Verdict settings request now other) :
    result = other := by
  obtain ⟨header, bears, rfl⟩ := verdict
  obtain ⟨again, bearsToo, rfl⟩ := second
  rw [← signatureOf_eq_some_iff] at bears bearsToo
  obtain rfl := Option.some.inj (bears.symm.trans bearsToo)
  rfl

theorem authorized_of_signed
    (signed : settings.secret = "" ∨ ∃ header, Verdict settings request now (.ok header)) :
    ¬ Unauthorized settings request now := by
  rintro ⟨_, guarded, refused⟩
  obtain ⟨header, verdict⟩ := signed.resolve_left guarded
  rcases refused with mismatch | ⟨skew, stale⟩
  · cases verdict.unique mismatch
  · cases verdict.unique stale

theorem Accepts.unique {event other : Event} (accepts : Accepts settings request now event)
    (again : Accepts settings request now other) : event = other :=
  Except.ok.inj (accepts.decoded.symm.trans again.decoded)

theorem refused_cases {refusal : Signature.Refusal} (filled : request.body ≠ [])
    (guarded : settings.secret ≠ "") (verdict : Verdict settings request now (.error refusal)) :
    (Error.signature refusal).toFault.status = 401 ∧ Unauthorized settings request now ∨
      (Error.signature refusal).toFault.status = 400 ∧ ¬ Unauthorized settings request now := by
  have malformed (broken : refusal.isMalformed = true) : ¬ Unauthorized settings request now := by
    rintro ⟨_, _, mismatch | ⟨skew, stale⟩⟩
    · cases verdict.unique mismatch
      cases broken
    · cases verdict.unique stale
      cases broken
  cases refusal with
  | missing key => exact .inr ⟨rfl, malformed rfl⟩
  | badTimestamp raw => exact .inr ⟨rfl, malformed rfl⟩
  | stale skew => exact .inl ⟨rfl, filled, guarded, .inr ⟨skew, verdict⟩⟩
  | mismatch => exact .inl ⟨rfl, filled, guarded, .inl verdict⟩

theorem verdict_of_missing (missing : (Http.signatureOf request).filter
    (fun header => !Text.isBlankText header) = none) {result : Except Signature.Refusal Signature.Header}
    (verdict : Verdict settings request now result) : result = .error (.missing "t") := by
  obtain ⟨header, bears, rfl⟩ := verdict
  rw [signatureOf_eq_some_iff.mpr bears, Option.filter_eq_none_iff] at missing
  have blank : Text.isBlankText header = true := by simpa using missing header rfl
  exact Signature.verify_of_blank blank _ _ _ _

theorem verify_cases (filled : request.body ≠ []) :
    settings.verify (Http.signatureOf request) request.body now = .ok () ∧
      (settings.secret = "" ∨ ∃ header, Verdict settings request now (.ok header)) ∨
    ∃ error, settings.verify (Http.signatureOf request) request.body now = .error error ∧
      ¬ (settings.secret = "" ∨ ∃ header, Verdict settings request now (.ok header)) ∧
      (error.toFault.status = 401 ∧ Unauthorized settings request now ∨
        error.toFault.status = 400 ∧ ¬ Unauthorized settings request now) := by
  unfold Settings.verify
  by_cases secret : settings.secret = ""
  · have off : settings.verifies = false := by simp [Settings.verifies, secret]
    rw [off]
    exact .inl ⟨rfl, .inl secret⟩
  have on : settings.verifies = true := by simp [Settings.verifies, secret]
  rw [if_pos on]
  cases borne : (Http.signatureOf request).filter fun header => !Text.isBlankText header with
  | none =>
      refine .inr ⟨.missingSignature, rfl, ?_, .inr ⟨rfl, ?_⟩⟩
      · rintro (none | ⟨header, verdict⟩)
        · exact secret none
        · cases verdict_of_missing borne verdict
      · rintro ⟨_, _, mismatch | ⟨skew, stale⟩⟩
        · cases verdict_of_missing borne mismatch
        · cases verdict_of_missing borne stale
  | some header =>
      have bears := signatureOf_eq_some_iff.mp (Option.filter_eq_some_iff.mp borne).1
      have verdict : Verdict settings request now (Signature.verify settings.secret header
          request.body now.seconds settings.toleranceSecs) := ⟨header, bears, rfl⟩
      dsimp only
      split
      · next read holds => exact .inl ⟨rfl, .inr ⟨read, holds ▸ verdict⟩⟩
      · next refusal refused =>
          rw [refused] at verdict
          refine .inr ⟨.signature refusal, rfl, ?_, refused_cases filled secret verdict⟩
          rintro (none | ⟨header, accepted⟩)
          · exact secret none
          · cases verdict.unique accepted

theorem accept_cases (settings : Settings) (request : Request) (now : Instant) :
    (∃ event, accept settings (Http.signatureOf request) request.body now = .ok event ∧
      Accepts settings request now event) ∨
    ∃ error, accept settings (Http.signatureOf request) request.body now = .error error ∧
      (∀ event, ¬ Accepts settings request now event) ∧
      (error.toFault.status = 401 ∧ Unauthorized settings request now ∨
        error.toFault.status = 400 ∧ ¬ Unauthorized settings request now) := by
  unfold accept
  by_cases filled : request.body = []
  · rw [filled]
    exact .inr ⟨.emptyBody, rfl, fun event accepts => accepts.filled filled,
      .inr ⟨rfl, fun unauthorized => unauthorized.filled filled⟩⟩
  rw [if_neg (by simpa using filled)]
  rcases verify_cases filled with ⟨passed, signed⟩ | ⟨error, failed, unsigned, status⟩
  · rw [passed]
    dsimp only [parseEvent]
    rw [if_neg (by simpa using filled)]
    have authorized := authorized_of_signed signed
    cases decoded : Event.reader.run request.body with
    | ok event => exact .inl ⟨event, rfl, filled, signed, decoded⟩
    | error fault =>
        have undecoded : ∀ event, ¬ Accepts settings request now event := by
          intro event accepts
          cases decoded.symm.trans accepts.decoded
        cases fault with
        | malformed => exact .inr ⟨_, rfl, undecoded, .inr ⟨rfl, authorized⟩⟩
        | mismatched => exact .inr ⟨_, rfl, undecoded, .inr ⟨rfl, authorized⟩⟩
  · rw [failed]
    exact .inr ⟨error, rfl, fun event accepts => unsigned accepts.signed, status⟩

end

end Webhook

end UsageBilling
