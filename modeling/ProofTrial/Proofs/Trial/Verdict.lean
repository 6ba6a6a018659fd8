import ProofTrial.Proofs.AnnotationLog
import ProofTrial.Proofs.Trial.Steps

/-! The verdict. A trial passes exactly when the verifier ran to an end and did what the scenario
expects, and otherwise what the verifier did decides which failure is reported. -/
namespace ProofTrial

/-- The marker stands in what was printed, read as text wherever it is text. -/
def Ended.Says (e : Ended ο) (marker : String) : Prop :=
  marker.toList <:+: (Text.ofBytesLossy e.stderr).toList

namespace Trial

theorem occursIn_iff_infix {piece text : List Char} :
    occursIn piece text = true ↔ piece <:+: text := by
  induction text with
  | nil => simp [occursIn]
  | cons c r ih =>
    rw [occursIn, Bool.or_eq_true, ih, List.isPrefixOf_iff_prefix, List.infix_cons_iff]

theorem prints_iff {e : Ended ο} {marker : String} : prints e marker = true ↔ e.Says marker :=
  occursIn_iff_infix

variable {σ : Type} [RandomSource σ] {scheme : Scheme}

theorem accepted_iff {e : Ended ο} :
    accepted scheme e = true ↔ e.code = some 0 ∧ e.Says scheme.successMarker := by
  rw [accepted, Bool.and_eq_true, Ended.success_iff, prints_iff]

theorem rejected_iff {e : Ended ο} :
    rejected scheme e = true ↔ e.code ≠ some 0 ∧ e.Says scheme.failureMarker := by
  rw [rejected, Bool.and_eq_true, prints_iff, Bool.not_eq_true', ← Bool.not_eq_true,
    Ended.success_iff]

/-- The verifier did what is expected; an accepting one also wrote the prover's annotations. -/
def Passes (scheme : Scheme) (expectation : Expectation) (artifact : Artifact)
    (judged : Ended (Option ByteArray)) : Prop :=
  match expectation with
  | .accept => judged.code = some 0 ∧ judged.Says scheme.successMarker ∧
      judged.output = some artifact.annotationLog.toUTF8
  | .reject => judged.code ≠ some 0 ∧ judged.Says scheme.failureMarker

theorem checkAnnotations_eq_ok {path : String} {artifact : Artifact} {log : Option ByteArray} :
    checkAnnotations path artifact log = .ok () ↔ log = some artifact.annotationLog.toUTF8 := by
  unfold checkAnnotations
  cases log with
  | none => simp
  | some bytes =>
    have hread := @TextFile.readText_eq_ok path artifact.annotationLog (some bytes)
    dsimp only
    rw [← hread]
    cases TextFile.readText path (some bytes) with
    | error e => simp
    | ok text => simp [AnnotationLog.compare_eq_ok]

theorem checkOutcome_eq_ok {expectation : Expectation} {path : String} {artifact : Artifact}
    {judged : Ended (Option ByteArray)} :
    checkOutcome scheme expectation path artifact judged = .ok () ↔
      Passes scheme expectation artifact judged := by
  unfold checkOutcome Passes
  cases expectation with
  | accept =>
    dsimp only
    rw [← and_assoc, ← accepted_iff]
    split_ifs with ha hr
    · simp [ha, checkAnnotations_eq_ok]
    · simp [ha]
    · simp [ha]
  | reject =>
    dsimp only
    rw [← rejected_iff]
    split_ifs with hr
    · simp [hr]
    · simp [hr]

/-- The line that is reported for a log that is missing or not the expected text. -/
def Differs (expected : String) (log : Option ByteArray) (line : Nat) : Prop :=
  (log = none ∧ line = 1) ∨ ∃ text, log = some text.toUTF8 ∧ text ≠ expected ∧
    line = AnnotationLog.firstDifference 1 (AnnotationLog.lines expected.toList)
      (AnnotationLog.lines text.toList)

/-- Why a verifier that ended did not pass, when its log is missing or a text. -/
def Blames (scheme : Scheme) (expectation : Expectation) (artifact : Artifact)
    (judged : Ended (Option ByteArray)) (e : Error) : Prop :=
  match expectation with
  | .accept =>
    (judged.code ≠ some 0 ∧ judged.Says scheme.failureMarker ∧
      e = .unexpectedRejection scheme.name judged.code) ∨
    (judged.code = some 0 ∧ judged.Says scheme.successMarker ∧
      ∃ line, Differs artifact.annotationLog judged.output line ∧ e = .annotationMismatch line) ∨
    (¬ (judged.code ≠ some 0 ∧ judged.Says scheme.failureMarker) ∧
      ¬ (judged.code = some 0 ∧ judged.Says scheme.successMarker) ∧
      e = .outcomeMismatch scheme.name (.notAccepted judged.code scheme.successMarker))
  | .reject => e = .outcomeMismatch scheme.name (.notRejected judged.code scheme.failureMarker)

/-- The log of the verifier is missing or a text. -/
def TextLog (judged : Ended (Option ByteArray)) : Prop :=
  judged.output = none ∨ ∃ text : String, judged.output = some text.toUTF8

theorem differs_of_checkAnnotations {path : String} {artifact : Artifact}
    {judged : Ended (Option ByteArray)} {e : Error} (ht : TextLog judged)
    (h : checkAnnotations path artifact judged.output = .error e) :
    ∃ line, Differs artifact.annotationLog judged.output line ∧ e = .annotationMismatch line := by
  rcases ht with ht | ⟨text, ht⟩
  · rw [ht] at h ⊢
    exact ⟨1, .inl ⟨rfl, rfl⟩, (Except.error.inj h).symm⟩
  · rw [ht] at h ⊢
    simp only [checkAnnotations, TextFile.readText_toUTF8, AnnotationLog.compare] at h
    split at h
    next => contradiction
    next hne => exact ⟨_, .inr ⟨text, rfl, fun he => hne he.symm, rfl⟩, (Except.error.inj h).symm⟩

theorem blames_of_checkOutcome {expectation : Expectation} {path : String} {artifact : Artifact}
    {judged : Ended (Option ByteArray)} {e : Error} (ht : TextLog judged)
    (h : checkOutcome scheme expectation path artifact judged = .error e) :
    Blames scheme expectation artifact judged e := by
  unfold checkOutcome at h
  unfold Blames
  cases expectation with
  | accept =>
    dsimp only at h ⊢
    split_ifs at h with ha hr
    · obtain ⟨hc, hs⟩ := accepted_iff.mp ha
      exact .inr (.inl ⟨hc, hs, differs_of_checkAnnotations ht h⟩)
    · obtain ⟨hc, hs⟩ := rejected_iff.mp hr
      exact .inl ⟨hc, hs, (Except.error.inj h).symm⟩
    · refine .inr (.inr ⟨?_, ?_, (Except.error.inj h).symm⟩)
      · intro hf
        exact hr (rejected_iff.mpr hf)
      · intro hs
        exact ha (accepted_iff.mpr hs)
  | reject =>
    dsimp only at h ⊢
    split_ifs at h
    exact (Except.error.inj h).symm

theorem checkAnnotations_eq_error {path : String} {artifact : Artifact} {log : Option ByteArray}
    {e : Error} (h : checkAnnotations path artifact log = .error e) :
    e.kind ∈ ["annotation_mismatch", "io"] := by
  unfold checkAnnotations at h
  cases log with
  | none =>
    obtain rfl := Except.error.inj h
    simp [Error.kind]
  | some bytes =>
    cases ht : TextFile.readText path (some bytes) with
    | error f =>
      simp only [ht, Except.error.injEq] at h
      simp [← h, TextFile.readText_eq_error ht]
    | ok text =>
      simp only [ht, AnnotationLog.compare] at h
      split_ifs at h
      obtain rfl := Except.error.inj h
      simp [Error.kind]

theorem checkOutcome_eq_error {expectation : Expectation} {path : String} {artifact : Artifact}
    {judged : Ended (Option ByteArray)} {e : Error}
    (h : checkOutcome scheme expectation path artifact judged = .error e) :
    e.kind ∈ ["unexpected_rejection", "outcome_mismatch", "annotation_mismatch", "io"] := by
  unfold checkOutcome at h
  cases expectation with
  | accept =>
    dsimp only at h
    split_ifs at h
    · exact List.mem_append_right ["unexpected_rejection", "outcome_mismatch"]
        (checkAnnotations_eq_error h)
    · obtain rfl := Except.error.inj h
      simp [Error.kind]
    · obtain rfl := Except.error.inj h
      simp [Error.kind]
  | reject =>
    dsimp only at h
    split_ifs at h
    obtain rfl := Except.error.inj h
    simp [Error.kind]

/-- The verifier ran to its end `judged` on what was made of the artifact that the prover left. -/
def Judged (bench : Bench) (scenario : Scenario scheme) (s : σ) (artifact : Artifact)
    (judged : Ended (Option ByteArray)) : Prop :=
  ∃ s₁ damaged s₂, Proved bench scenario s artifact s₁ ∧
    damage scenario artifact s₁ = (.ok damaged, s₂) ∧
    bench.verifier.run (verifierCallOf bench damaged) = .ended judged

variable {bench : Bench} {scenario : Scenario scheme} {s : σ}

/-- A trial whose verifier ended has the verdict on that verifier as its result. -/
theorem result_of_judged {artifact : Artifact} {judged : Ended (Option ByteArray)}
    (h : Judged bench scenario s artifact judged) :
    ∃ inputs, (prepared bench scenario s).1 = .ok inputs ∧ (run bench scenario s).result =
      (checkOutcome scheme scenario.expectation (annotationPath bench) artifact judged).map
        fun _ => ⟨judged.code, artifact.proofLength, inputs.parameters.fri.queries⟩ := by
  obtain ⟨s₁, damaged, s₂, hproved, hd, hv⟩ := h
  obtain ⟨inputs, hp, ha⟩ := proved_iff.mp hproved
  have hstart : bench.verifier.start bench.limit (verifierCallOf bench damaged) = .ok judged :=
    Program.start_eq_ok.mpr hv
  refine ⟨inputs, by rw [hp], ?_⟩
  unfold prepared at hp
  simp only [run, hp, attempt, ha, challenge, hd, verify, hstart, result_report, result_after]
  cases checkOutcome scheme scenario.expectation (annotationPath bench) artifact judged with
  | error e => rfl
  | ok u => rfl

theorem judged_of_ok {o : Outcome} (h : (run bench scenario s).result = .ok o) :
    ∃ artifact judged, Judged bench scenario s artifact judged ∧
      checkOutcome scheme scenario.expectation (annotationPath bench) artifact judged = .ok () := by
  have hcourse := course bench scenario s
  generalize run bench scenario s = t at h hcourse
  cases hcourse with
  | passed hp ha hd hv hc =>
    have hproved := proved_iff.mpr ⟨_, hp, ha⟩
    exact ⟨_, _, ⟨_, _, _, hproved, hd, Program.start_eq_ok.mp hv⟩, hc⟩
  | unprepared | unproved | undamaged | unverified | failed => simp at h

/-- The exit code of a trial that passes is one that was expected. -/
theorem exitCode_of_ok {o : Outcome} (h : (run bench scenario s).result = .ok o) :
    (scenario.expectation = .accept → o.verifierExitCode = some 0) ∧
      (scenario.expectation = .reject → o.verifierExitCode ≠ some 0) := by
  obtain ⟨artifact, judged, hj, hc⟩ := judged_of_ok h
  obtain ⟨inputs, _, hr⟩ := result_of_judged hj
  have hpasses := checkOutcome_eq_ok.mp hc
  rw [hc, h] at hr
  obtain rfl := Except.ok.inj hr
  constructor
  · intro hx
    simp only [Passes, hx] at hpasses
    exact hpasses.1
  · intro hx
    simp only [Passes, hx] at hpasses
    exact hpasses.1

/-- A trial passes exactly when its verifier ended and did what is expected. One that fails after
its verifier ended reports what that verifier did. -/
theorem run_ok_iff_passes (bench : Bench) (scenario : Scenario scheme) (s : σ) :
    ((∃ o, (run bench scenario s).result = .ok o) ↔
      ∃ artifact judged, Judged bench scenario s artifact judged ∧
        Passes scheme scenario.expectation artifact judged) ∧
    ∀ artifact judged, Judged bench scenario s artifact judged →
      (scenario.expectation = .reject → judged.code = some 0 →
        ∃ e, (run bench scenario s).result = .error e) ∧
      (TextLog judged → ∀ e, (run bench scenario s).result = .error e →
        Blames scheme scenario.expectation artifact judged e) := by
  constructor
  · constructor
    · rintro ⟨o, ho⟩
      obtain ⟨artifact, judged, hj, hc⟩ := judged_of_ok ho
      exact ⟨artifact, judged, hj, checkOutcome_eq_ok.mp hc⟩
    · rintro ⟨artifact, judged, hj, hp⟩
      obtain ⟨inputs, _, hq⟩ := result_of_judged hj
      rw [checkOutcome_eq_ok.mpr hp] at hq
      exact ⟨_, hq⟩
  · intro artifact judged hj
    obtain ⟨inputs, _, hq⟩ := result_of_judged hj
    cases hc : checkOutcome scheme scenario.expectation (annotationPath bench) artifact judged with
    | ok u =>
      rw [hc] at hq
      have hp := checkOutcome_eq_ok.mp hc
      constructor
      · intro hx h0
        simp only [Passes, hx] at hp
        exact absurd h0 hp.1
      · intro _ e he
        rw [hq] at he
        contradiction
    | error f =>
      rw [hc] at hq
      constructor
      · intro _ _
        exact ⟨f, hq⟩
      · intro ht e he
        obtain rfl := Except.error.inj (hq.symm.trans he)
        exact blames_of_checkOutcome ht hc

end Trial
end ProofTrial
