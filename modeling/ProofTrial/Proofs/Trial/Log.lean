import ProofTrial.Proofs.Trial.Verdict

/-! The log of an accepting verifier. A trial that expects acceptance passes on the prover's own
log, and a log that is missing or another text is a mismatch. Bytes that are no text never come to
the comparison: the verifier that wrote them is reported as a failure of the surroundings. -/
namespace ProofTrial

/-- What can be read is a text. -/
theorem TextFile.readText_of_foreign {path : String} {bytes : ByteArray}
    (h : ∀ text : String, bytes ≠ text.toUTF8) :
    readText path (some bytes) = .error (.file path .notText) := by
  cases ht : readText path (some bytes) with
  | ok text =>
    have hb := Option.some.inj (readText_eq_ok.mp ht)
    exact absurd hb (h text)
  | error e =>
    simp only [readText] at ht
    split at ht
    next => contradiction
    next => exact ht.symm

namespace Trial

variable {scheme : Scheme} {path : String} {artifact : Artifact}
  {judged : Ended (Option ByteArray)}

theorem checkOutcome_of_accepted (hc : judged.code = some 0)
    (hs : judged.Says scheme.successMarker) :
    checkOutcome scheme .accept path artifact judged =
      checkAnnotations path artifact judged.output :=
  if_pos (accepted_iff.mpr ⟨hc, hs⟩)

theorem checkAnnotations_of_not_textLog (h : ¬ TextLog judged) :
    checkAnnotations path artifact judged.output = .error (.file path .notText) := by
  cases hl : judged.output with
  | none => exact absurd (.inl hl) h
  | some bytes =>
    have hforeign : ∀ text : String, bytes ≠ text.toUTF8 := by
      rintro text rfl
      exact h (.inr ⟨text, hl⟩)
    simp only [checkAnnotations, TextFile.readText_of_foreign hforeign]

/-- A log that is missing or a text is compared, and only then is there a line to report. -/
theorem checkAnnotations_eq_mismatch :
    (∃ line, checkAnnotations path artifact judged.output = .error (.annotationMismatch line)) ↔
      TextLog judged ∧ judged.output ≠ some artifact.annotationLog.toUTF8 := by
  constructor
  · rintro ⟨line, h⟩
    constructor
    · by_contra ht
      rw [checkAnnotations_of_not_textLog ht] at h
      simp at h
    · intro hl
      rw [checkAnnotations_eq_ok.mpr hl] at h
      contradiction
  · rintro ⟨ht, hl⟩
    cases h : checkAnnotations path artifact judged.output with
    | ok u => exact absurd (checkAnnotations_eq_ok.mp h) hl
    | error e =>
      obtain ⟨line, _, rfl⟩ := differs_of_checkAnnotations ht h
      exact ⟨line, rfl⟩

/-- The verdict on an accepting verifier by its log. Every log that is missing or a text is judged
for what it says; the bytes that are no text, and no others, end as a failure of the
surroundings. -/
theorem accepting_verdict_by_log (path : String) (artifact : Artifact)
    (hc : judged.code = some 0) (hs : judged.Says scheme.successMarker) :
    (checkOutcome scheme .accept path artifact judged = .ok () ↔
      judged.output = some artifact.annotationLog.toUTF8) ∧
    ((∃ line, checkOutcome scheme .accept path artifact judged =
        .error (.annotationMismatch line)) ↔
      TextLog judged ∧ judged.output ≠ some artifact.annotationLog.toUTF8) ∧
    (checkOutcome scheme .accept path artifact judged = .error (.file path .notText) ↔
      ¬ TextLog judged) ∧
    ∀ e, checkOutcome scheme .accept path artifact judged = .error e →
      (e.isInfrastructure = true ↔ ¬ TextLog judged) := by
  rw [checkOutcome_of_accepted hc hs]
  refine ⟨checkAnnotations_eq_ok, checkAnnotations_eq_mismatch, ⟨?_, ?_⟩, ?_⟩
  · intro h ht
    obtain ⟨line, _, he⟩ := differs_of_checkAnnotations ht h
    contradiction
  · exact checkAnnotations_of_not_textLog
  · intro e he
    by_cases ht : TextLog judged
    · obtain ⟨line, _, rfl⟩ := differs_of_checkAnnotations ht he
      simp [ht, Error.isInfrastructure]
    · obtain rfl := Except.error.inj ((checkAnnotations_of_not_textLog ht).symm.trans he)
      simp [ht, Error.isInfrastructure]

/-- An artifact with one annotation. -/
def annotatedArtifact : Artifact := ⟨"0x0f", ["a"], .null, []⟩

/-- A verifier that accepts and leaves some bytes as its log. -/
def acceptingWith (log : ByteArray) : Ended (Option ByteArray) :=
  ⟨some 0, Scheme.rescue.successMarker.toUTF8, some log⟩

theorem says_acceptingWith (log : ByteArray) :
    (acceptingWith log).Says Scheme.rescue.successMarker := by
  simp only [Ended.Says, acceptingWith, Text.ofBytesLossy_toUTF8]
  exact List.infix_refl _

theorem accepting_verdict_by_log_sample :
    (acceptingWith "b\n".toUTF8).code = some 0 ∧
    (acceptingWith "b\n".toUTF8).Says Scheme.rescue.successMarker ∧
    ∃ line, checkOutcome .rescue .accept "log" annotatedArtifact (acceptingWith "b\n".toUTF8) =
      .error (.annotationMismatch line) := by
  have hs := says_acceptingWith "b\n".toUTF8
  have hne : "b\n".toUTF8 ≠ annotatedArtifact.annotationLog.toUTF8 := by decide
  have h := accepting_verdict_by_log "log" annotatedArtifact rfl hs
  exact ⟨rfl, hs, h.2.1.mpr ⟨.inr ⟨_, rfl⟩, fun he => hne (Option.some.inj he)⟩⟩

/-- A single byte that begins no character is not the prover's log, and yet no mismatch. -/
theorem accepting_verdict_on_stray_byte :
    (acceptingWith ⟨#[0xff]⟩).code = some 0 ∧
    (acceptingWith ⟨#[0xff]⟩).Says Scheme.rescue.successMarker ∧
    (acceptingWith ⟨#[0xff]⟩).output ≠ some annotatedArtifact.annotationLog.toUTF8 ∧
    checkOutcome .rescue .accept "log" annotatedArtifact (acceptingWith ⟨#[0xff]⟩) =
      .error (.file "log" .notText) ∧
    (Error.file "log" .notText).isInfrastructure = true := by
  have hs := says_acceptingWith ⟨#[0xff]⟩
  have hread : String.fromUTF8? ⟨#[0xff]⟩ = none := by decide
  have hne : (ByteArray.mk #[0xff]) ≠ annotatedArtifact.annotationLog.toUTF8 := by decide
  refine ⟨rfl, hs, fun he => hne (Option.some.inj he), ?_, rfl⟩
  rw [checkOutcome_of_accepted rfl hs]
  simp only [acceptingWith, checkAnnotations, TextFile.readText, hread]

end Trial
end ProofTrial
