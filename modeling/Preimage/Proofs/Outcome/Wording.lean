import Preimage.Proofs.Compiler

/-! What a failure says that came without a text. Producer and consumer fill in the same words
unless a status outside the catalogue carries a code that is in it. -/
namespace Preimage.Status
variable {status : Status}

/-- A status that is outside the catalogue, with the code of one that is in it. -/
def Masked (status : Status) : Prop := ∃ listed ∈ catalogue, status = unrecognized listed.code

theorem listed_or_unrecognized (status : Status) :
    status ∈ catalogue ∨ ∃ code, status = unrecognized code := by
  cases status with
  | unrecognized code => exact .inr ⟨code, rfl⟩
  | _ => exact .inl (by decide)

theorem not_masked_of_listed (listed : status ∈ catalogue) : ¬ status.Masked := by
  rintro ⟨other, -, rfl⟩
  have known : ∀ status ∈ catalogue, status.isKnown = true := by decide
  cases known _ listed

theorem description_ne_of_listed (listed : status ∈ catalogue) (code : Int32) :
    status.description ≠ (unrecognized code).description := by
  have others : ∀ status ∈ catalogue, status.description ≠ "Unrecognized error code" := by decide
  exact others status listed

theorem description_ofCode_eq_iff :
    (ofCode status.code).description = status.description ↔ ¬ status.Masked := by
  rcases status.listed_or_unrecognized with listed | ⟨code, rfl⟩
  · rw [ofCode_code listed]
    exact iff_of_true rfl (not_masked_of_listed listed)
  · rcases ofCode_cases code with listed | ⟨unlisted, others⟩
    · have masked : (unrecognized code).Masked :=
        ⟨ofCode code, listed, by rw [code_ofCode]⟩
      exact iff_of_false (description_ne_of_listed listed code) (not_not.2 masked)
    · refine iff_of_true (congrArg description unlisted) ?_
      rintro ⟨other, member, same⟩
      cases same
      exact others other member rfl

theorem utf8ByteSize_description_lt (status : Status) :
    status.description.utf8ByteSize < 2 ^ 64 := by
  rcases status.listed_or_unrecognized with listed | ⟨code, rfl⟩
  · have short : ∀ status ∈ catalogue, status.description.utf8ByteSize < 2 ^ 64 := by
      decide +kernel
    exact short status listed
  · exact (by decide : "Unrecognized error code".utf8ByteSize < 2 ^ 64)

end Preimage.Status

namespace Preimage.Outcome
variable {status : Status} {text : String} {built sent : Outcome}

def reported (code : Int32) (text : String) : Outcome := { errorCode := code, error := text }

theorem error_failure_eq (failed : status.code ≠ 0) :
    (failure status text).error = if text = "" then status.description else text := by
  have fails : ¬ status.isOk = true := mt Status.isOk_iff.1 failed
  simp only [failure, if_neg fails, String.isEmpty_iff]

theorem sized_failure (failed : status.code ≠ 0) (sized : text.utf8ByteSize < 2 ^ 64) :
    (failure status text).Sized := by
  refine ⟨Nat.two_pow_pos 64, Nat.two_pow_pos 64, ?_⟩
  rw [error_failure_eq failed]
  split
  · exact status.utf8ByteSize_description_lt
  · exact sized

theorem sized_reported (sized : text.utf8ByteSize < 2 ^ 64) (code : Int32) :
    (reported code text).Sized :=
  ⟨Nat.two_pow_pos 64, Nat.two_pow_pos 64, sized⟩

theorem verdict_failure (failed : status.code ≠ 0) :
    (failure status text).verdict =
      .error ⟨.ofCode status.code, if text = "" then status.description else text⟩ := by
  have code : (failure status text).errorCode = status.code := by
    rw [errorCode_failure, if_neg failed]
  rw [(refuses_failure status text).told, code, error_failure_eq failed]

theorem verdict_reported {code : Int32} (failed : code ≠ 0) :
    (reported code text).verdict =
      .error ⟨.ofCode code, if text = "" then (Status.ofCode code).description else text⟩ :=
  verdict_of_errorCode failed

/-- A failure and a bare report of its code and text tell a consumer the same code. They tell the
same words unless the text is empty and the status masked. -/
theorem verdict_failure_eq_reported_iff (failed : status.code ≠ 0) :
    (text.utf8ByteSize < 2 ^ 64 → ∀ policy : UnknownPolicy,
      Decoder.decode { policy } (failure status text).encode = .ok (failure status text) ∧
      Decoder.decode { policy } (reported status.code text).encode =
        .ok (reported status.code text)) ∧
    ∀ built sent, (failure status text).Reaches built → (reported status.code text).Reaches sent →
      ∃ told told', built.verdict = .error told ∧ sent.verdict = .error told' ∧
        told.status = told'.status ∧
        (told'.text = if text = "" then told'.status.description else text) ∧
        (told = told' ↔ text ≠ "" ∨ ¬ status.Masked) := by
  constructor
  · intro sized policy
    exact ⟨decode_encode_of_bare rfl (sized_failure failed sized) policy,
      decode_encode_of_bare rfl (sized_reported sized status.code) policy⟩
  · intro built sent reaches reaches'
    rw [eq_of_reaches rfl reaches, eq_of_reaches rfl reaches']
    refine ⟨_, _, verdict_failure failed, verdict_reported failed, rfl, rfl, ?_⟩
    by_cases wordless : text = ""
    · have described := @Status.description_ofCode_eq_iff status
      simp [wordless, ← described, eq_comm]
    · simp [wordless]

/-- A code of a later catalogue, without words. -/
theorem verdict_failure_eq_reported_iff_unlisted :
    ∃ told told', (failure (.unrecognized (-7)) "").verdict = .error told ∧
      (reported (-7) "").verdict = .error told' ∧ told = told' := by
  have failed : (Status.unrecognized (-7)).code ≠ 0 := by decide
  have unlisted : ¬ (Status.unrecognized (-7)).Masked := by
    have others : ∀ listed ∈ Status.catalogue,
        Status.unrecognized (-7) ≠ .unrecognized listed.code := by decide
    rintro ⟨listed, member, same⟩
    exact others listed member same
  have returned := (@verdict_failure_eq_reported_iff _ "" failed).1 (by decide) .discard
  obtain ⟨told, told', handed, sent, _, _, same⟩ := (verdict_failure_eq_reported_iff failed).2 _ _
    (.written (sized_failure failed (by decide)) returned.1)
    (.written (sized_reported (by decide) _) returned.2)
  exact ⟨told, told', handed, sent, same.2 (.inr unlisted)⟩

/-- A producer fails with code 5 outside the catalogue. Its consumer reads a missing key, described
as an unrecognized code. -/
theorem verdict_failure_ne_reported :
    ¬ ∀ (status : Status) (text : String), status.code ≠ 0 →
      (failure status text).verdict = (reported status.code text).verdict := by
  intro all
  have differ : (failure (.unrecognized 5) "").verdict ≠ (reported 5 "").verdict := by decide
  exact differ (all (.unrecognized 5) "" (by decide))

end Preimage.Outcome
