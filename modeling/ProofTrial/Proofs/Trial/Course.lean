import ProofTrial.Trial.Basic
import Mathlib.Tactic

/-! The courses a trial can take. A trial ends at the first step that fails, or passes all of them;
`Course` lists these endings with everything that was reported and started on the way, and `course`
says that there are no others. -/
namespace ProofTrial.Trial

variable {σ : Type} {scheme : Scheme}

/-- Stages in the order they were reported. -/
def stages (t : Trial σ) : List Stage := t.progress.map Progress.stage

/-- Started provers in order. -/
def proverCalls (t : Trial σ) : List ProverCall := t.events.filterMap Event.proverCall?

/-- Started verifiers in order. -/
def verifierCalls (t : Trial σ) : List VerifierCall := t.events.filterMap Event.verifierCall?

section Recording

variable (scenario : Scenario scheme) (stage : Stage) (detail : String) (t : Trial σ)

@[simp] theorem result_done (r : Except Error Outcome) (s : σ) : (done r s).result = r := rfl

@[simp] theorem events_done (r : Except Error Outcome) (s : σ) : (done r s).events = [] := rfl

@[simp] theorem result_after (e : Event) : (after e t).result = t.result := rfl

@[simp] theorem events_after (e : Event) : (after e t).events = e :: t.events := rfl

@[simp] theorem result_report : (report scenario stage detail t).result = t.result := rfl

@[simp] theorem events_report : (report scenario stage detail t).events =
    .reached ⟨scheme, scenario.name, stage, detail⟩ :: t.events := rfl

@[simp] theorem stages_done (r : Except Error Outcome) (s : σ) : (done r s).stages = [] := rfl

@[simp] theorem stages_report :
    (report scenario stage detail t).stages = stage :: t.stages := rfl

@[simp] theorem stages_proverCalled (call : ProverCall) :
    (after (.proverCalled call) t).stages = t.stages := rfl

@[simp] theorem stages_verifierCalled (call : VerifierCall) :
    (after (.verifierCalled call) t).stages = t.stages := rfl

theorem lastStage_eq (t : Trial σ) : t.lastStage = t.stages.getLast?.getD .init := by
  rw [lastStage, stages, List.getLast?_map]

end Recording

variable [RandomSource σ]

/-- What the inputs of a trial come to, and the source that is left. -/
def prepared (bench : Bench) (scenario : Scenario scheme) (s : σ) :
    Except Error ProverInputs × σ :=
  ProverInputs.prepare scheme scenario.source scenario.zeroKnowledge bench.permutation s

@[simp] def reportInit (scenario : Scenario scheme) (t : Trial σ) : Trial σ :=
  report scenario .init (scenario.source.title ++ " inputs") t

/-- The inputs are prepared and the prover is started on them. -/
@[simp] def reportPrepared (bench : Bench) (scenario : Scenario scheme) (inputs : ProverInputs)
    (t : Trial σ) : Trial σ :=
  report scenario .inputsPrepared (toString inputs.parameters.fri.queries ++ " queries")
    (after (.proverCalled (proverCallOf bench inputs)) t)

@[simp] def reportProved (scenario : Scenario scheme) (artifact : Artifact) (t : Trial σ) : Trial σ :=
  report scenario .proved (toString artifact.proofLength ++ " proof bytes") t

/-- The damage is done and the verifier is started on what it left. -/
@[simp] def reportMutated (bench : Bench) (scenario : Scenario scheme) (damaged : Artifact)
    (t : Trial σ) : Trial σ :=
  report scenario .mutated scenario.damage
    (after (.verifierCalled (verifierCallOf bench damaged)) t)

@[simp] def reportVerified (scenario : Scenario scheme) (code : ExitCode) (t : Trial σ) : Trial σ :=
  report scenario .verified ("exit code " ++ code.text) t

@[simp] def reportAsserted (scenario : Scenario scheme) (t : Trial σ) : Trial σ :=
  report scenario .asserted "pass" t

/-- The endings of a trial from the source `s`. -/
inductive Course (bench : Bench) (scenario : Scenario scheme) (s : σ) : Trial σ → Prop where
  | unprepared {e : Error} {s₁ : σ} (hp : prepared bench scenario s = (.error e, s₁)) :
      Course bench scenario s (reportInit scenario (done (.error e) s₁))
  | unproved {inputs : ProverInputs} {e : Error} {s₁ : σ}
      (hp : prepared bench scenario s = (.ok inputs, s₁))
      (ha : prove bench (proverCallOf bench inputs) = .error e) :
      Course bench scenario s
        (reportInit scenario (reportPrepared bench scenario inputs (done (.error e) s₁)))
  | undamaged {inputs : ProverInputs} {artifact : Artifact} {e : Error} {s₁ s₂ : σ}
      (hp : prepared bench scenario s = (.ok inputs, s₁))
      (ha : prove bench (proverCallOf bench inputs) = .ok artifact)
      (hd : damage scenario artifact s₁ = (.error e, s₂)) :
      Course bench scenario s
        (reportInit scenario (reportPrepared bench scenario inputs
          (reportProved scenario artifact (done (.error e) s₂))))
  | unverified {inputs : ProverInputs} {artifact damaged : Artifact} {e : Error} {s₁ s₂ : σ}
      (hp : prepared bench scenario s = (.ok inputs, s₁))
      (ha : prove bench (proverCallOf bench inputs) = .ok artifact)
      (hd : damage scenario artifact s₁ = (.ok damaged, s₂))
      (hv : bench.verifier.start bench.limit (verifierCallOf bench damaged) = .error e) :
      Course bench scenario s
        (reportInit scenario (reportPrepared bench scenario inputs
          (reportProved scenario artifact (reportMutated bench scenario damaged
            (done (.error e) s₂)))))
  | failed {inputs : ProverInputs} {artifact damaged : Artifact}
      {ended : Ended (Option ByteArray)} {e : Error} {s₁ s₂ : σ}
      (hp : prepared bench scenario s = (.ok inputs, s₁))
      (ha : prove bench (proverCallOf bench inputs) = .ok artifact)
      (hd : damage scenario artifact s₁ = (.ok damaged, s₂))
      (hv : bench.verifier.start bench.limit (verifierCallOf bench damaged) = .ok ended)
      (hc : checkOutcome scheme scenario.expectation (annotationPath bench) artifact ended =
        .error e) :
      Course bench scenario s
        (reportInit scenario (reportPrepared bench scenario inputs
          (reportProved scenario artifact (reportMutated bench scenario damaged
            (reportVerified scenario ended.code (done (.error e) s₂))))))
  | passed {inputs : ProverInputs} {artifact damaged : Artifact}
      {ended : Ended (Option ByteArray)} {s₁ s₂ : σ}
      (hp : prepared bench scenario s = (.ok inputs, s₁))
      (ha : prove bench (proverCallOf bench inputs) = .ok artifact)
      (hd : damage scenario artifact s₁ = (.ok damaged, s₂))
      (hv : bench.verifier.start bench.limit (verifierCallOf bench damaged) = .ok ended)
      (hc : checkOutcome scheme scenario.expectation (annotationPath bench) artifact ended =
        .ok ()) :
      Course bench scenario s
        (reportInit scenario (reportPrepared bench scenario inputs
          (reportProved scenario artifact (reportMutated bench scenario damaged
            (reportVerified scenario ended.code (reportAsserted scenario
              (done (.ok ⟨ended.code, artifact.proofLength, inputs.parameters.fri.queries⟩)
                s₂)))))))

/-- A trial takes one of these courses. -/
theorem course (bench : Bench) (scenario : Scenario scheme) (s : σ) :
    Course bench scenario s (run bench scenario s) := by
  cases hp : prepared bench scenario s with
  | mk r s₁ =>
    have hp' := hp
    unfold prepared at hp'
    simp only [run, hp']
    cases r with
    | error e => exact .unprepared hp
    | ok inputs =>
      simp only [attempt]
      cases ha : prove bench (proverCallOf bench inputs) with
      | error e => exact .unproved hp ha
      | ok artifact =>
        simp only [challenge]
        cases hd : damage scenario artifact s₁ with
        | mk r s₂ =>
          cases r with
          | error e => exact .undamaged hp ha hd
          | ok damaged =>
            simp only [verify]
            cases hv : bench.verifier.start bench.limit (verifierCallOf bench damaged) with
            | error e => exact .unverified hp ha hd hv
            | ok ended =>
              dsimp only
              cases hc : checkOutcome scheme scenario.expectation (annotationPath bench)
                  artifact ended with
              | error e => exact .failed hp ha hd hv hc
              | ok u => exact .passed hp ha hd hv hc

end ProofTrial.Trial
