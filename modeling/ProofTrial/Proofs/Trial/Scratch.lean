import ProofTrial.Proofs.Trial.Course

/-! The directory of a trial. Programs that do the same wherever their files are make a trial go the
same way in every directory; only the paths in an error tell two such trials apart. -/
namespace ProofTrial

/-- The same error of trials in two directories: a path in it leads to one file of both. -/
inductive Error.Alike (dir dir' : String) : Error → Error → Prop where
  | same (e : Error) : Alike dir dir' e e
  | file (name : String) (fault : FileFault) :
      Alike dir dir' (.file (dir ++ "/" ++ name) fault) (.file (dir' ++ "/" ++ name) fault)
  | json (name : String) (fault : JsonFault) :
      Alike dir dir' (.json (dir ++ "/" ++ name) fault) (.json (dir' ++ "/" ++ name) fault)
  | artifact (name : String) :
      Alike dir dir' (.invalidParameter (.artifactProofMalformed (dir ++ "/" ++ name)))
        (.invalidParameter (.artifactProofMalformed (dir' ++ "/" ++ name)))

theorem Error.Alike.kind_eq {dir dir' : String} {e f : Error} (h : Error.Alike dir dir' e f) :
    e.kind = f.kind := by
  cases h <;> rfl

theorem Error.Alike.isInfrastructure_eq {dir dir' : String} {e f : Error}
    (h : Error.Alike dir dir' e f) : e.isInfrastructure = f.isInfrastructure := by
  cases h <;> rfl

/-- Success with one value, or failure with errors that are alike. -/
inductive Agree (dir dir' : String) {α : Type} : Except Error α → Except Error α → Prop where
  | ok (a : α) : Agree dir dir' (.ok a) (.ok a)
  | error {e f : Error} (h : Error.Alike dir dir' e f) : Agree dir dir' (.error e) (.error f)

namespace Agree

variable {dir dir' : String} {α : Type} {r r' : Except Error α}

theorem of_eq (h : r = r') : Agree dir dir' r r' := by
  subst h
  cases r with
  | ok a => exact .ok a
  | error e => exact .error (.same e)

theorem outcomes (h : Agree dir dir' r r') :
    (∃ a, r = .ok a ∧ r' = .ok a) ∨
      ∃ e f, r = .error e ∧ r' = .error f ∧ Error.Alike dir dir' e f := by
  cases h with
  | ok a => exact .inl ⟨a, rfl, rfl⟩
  | error h => exact .inr ⟨_, _, rfl, rfl, h⟩

end Agree

section Files

variable (dir dir' name : String) (content : Option ByteArray)

theorem TextFile.agree_readText :
    Agree dir dir' (readText (dir ++ "/" ++ name) content)
      (readText (dir' ++ "/" ++ name) content) := by
  cases content with
  | none => exact .error (.file name .absent)
  | some bytes =>
    simp only [readText]
    cases String.fromUTF8? bytes with
    | none => exact .error (.file name .notText)
    | some text => exact .ok text

theorem TextFile.agree_readJson {α : Type} (expect : Json.Node → Except JsonFault α) :
    Agree dir dir' (readJson expect (dir ++ "/" ++ name) content)
      (readJson expect (dir' ++ "/" ++ name) content) := by
  rcases (agree_readText dir dir' name content).outcomes with
    ⟨text, h, h'⟩ | ⟨e, f, h, h', halike⟩
  · simp only [readJson, h, h']
    cases Json.decodeText expect text with
    | error fault => exact .error (.json name fault)
    | ok a => exact .ok a
  · simp only [readJson, h, h']
    exact .error halike

theorem Artifact.agree_load :
    Agree dir dir' (load (dir ++ "/" ++ name) content) (load (dir' ++ "/" ++ name) content) := by
  rcases (TextFile.agree_readJson dir dir' name content ofNode).outcomes with
    ⟨a, h, h'⟩ | ⟨e, f, h, h', halike⟩
  · simp only [load, h, h']
    split_ifs
    · exact .ok a
    · exact .error (.artifact name)
  · simp only [load, h, h']
    exact .error halike

end Files

/-- The bench with its files in another directory. -/
def Bench.movedTo (bench : Bench) (dir : String) : Bench := { bench with scratch := dir }

/-- What the programs do in a trial does not depend on the directory of its files. -/
structure Bench.PathBlind (bench : Bench) : Prop where
  prover : ∀ (dir : String) (inputs : ProverInputs),
    bench.prover.run (Trial.proverCallOf (bench.movedTo dir) inputs) =
      bench.prover.run (Trial.proverCallOf bench inputs)
  verifier : ∀ (dir : String) (artifact : Artifact),
    bench.verifier.run (Trial.verifierCallOf (bench.movedTo dir) artifact) =
      bench.verifier.run (Trial.verifierCallOf bench artifact)

/-- Programs that look at nothing but the texts of their files do the same in every directory. -/
theorem Bench.pathBlind_of_texts {bench : Bench}
    {prove verify : List String → Launch (Option ByteArray)}
    (hp : ∀ call, bench.prover.run call = prove (call.files.map SavedFile.text))
    (hv : ∀ call, bench.verifier.run call = verify (call.files.map SavedFile.text)) :
    bench.PathBlind where
  prover dir inputs := by
    rw [hp, hp]
    rfl
  verifier dir artifact := by
    rw [hv, hv]
    rfl

namespace Trial

variable {σ : Type} {scheme : Scheme}

/-- Trials in two directories that went the same way. -/
structure Alike (dir dir' : String) (t u : Trial σ) : Prop where
  progress : t.progress = u.progress
  result : Agree dir dir' t.result u.result
  source : t.source = u.source

section Recording

variable {dir dir' : String} {t u : Trial σ}

theorem alike_done {r r' : Except Error Outcome} (h : Agree dir dir' r r') (s : σ) :
    Alike dir dir' (done r s) (done r' s) := ⟨rfl, h, rfl⟩

theorem Alike.report (h : Alike dir dir' t u) (scenario : Scenario scheme) (stage : Stage)
    (detail : String) :
    Alike dir dir' (report scenario stage detail t) (report scenario stage detail u) :=
  ⟨congrArg (List.cons _) h.progress, h.result, h.source⟩

/-- Starts of programs are no progress. -/
theorem Alike.called (h : Alike dir dir' t u) {c d : Event} (hc : c.progress? = none)
    (hd : d.progress? = none) : Alike dir dir' (after c t) (after d u) := by
  have hc' : (after c t).progress = t.progress := List.filterMap_cons_none hc
  have hd' : (after d u).progress = u.progress := List.filterMap_cons_none hd
  exact ⟨hc'.trans (h.progress.trans hd'.symm), h.result, h.source⟩

end Recording

section Moved

variable {bench : Bench} (dir : String)

theorem agree_checkOutcome (expectation : Expectation) (artifact : Artifact)
    (judged : Ended (Option ByteArray)) :
    Agree bench.scratch dir
      (checkOutcome scheme expectation (annotationPath bench) artifact judged)
      (checkOutcome scheme expectation (annotationPath (bench.movedTo dir)) artifact judged) := by
  have hlog : Agree bench.scratch dir
      (checkAnnotations (annotationPath bench) artifact judged.output)
      (checkAnnotations (annotationPath (bench.movedTo dir)) artifact judged.output) := by
    cases judged.output with
    | none => exact .of_eq rfl
    | some log =>
      rcases (TextFile.agree_readText bench.scratch dir "verifier_annotations.txt"
        (some log)).outcomes with ⟨text, h, h'⟩ | ⟨e, f, h, h', halike⟩
      · simp only [checkAnnotations, annotationPath, fileIn, h, Bench.movedTo, h']
        exact .of_eq rfl
      · simp only [checkAnnotations, annotationPath, fileIn, h, Bench.movedTo, h']
        exact .error halike
  cases expectation with
  | accept =>
    simp only [checkOutcome]
    split_ifs
    · exact hlog
    · exact .of_eq rfl
    · exact .of_eq rfl
  | reject => exact .of_eq rfl

variable (hb : bench.PathBlind)

include hb

theorem start_prover_moved (inputs : ProverInputs) :
    (bench.movedTo dir).prover.start (bench.movedTo dir).limit
        (proverCallOf (bench.movedTo dir) inputs) =
      bench.prover.start bench.limit (proverCallOf bench inputs) := by
  have hrun : (bench.movedTo dir).prover.run (proverCallOf (bench.movedTo dir) inputs) =
      bench.prover.run (proverCallOf bench inputs) := hb.prover dir inputs
  rw [Program.start, hrun]
  rfl

theorem start_verifier_moved (artifact : Artifact) :
    (bench.movedTo dir).verifier.start (bench.movedTo dir).limit
        (verifierCallOf (bench.movedTo dir) artifact) =
      bench.verifier.start bench.limit (verifierCallOf bench artifact) := by
  have hrun : (bench.movedTo dir).verifier.run (verifierCallOf (bench.movedTo dir) artifact) =
      bench.verifier.run (verifierCallOf bench artifact) := hb.verifier dir artifact
  rw [Program.start, hrun]
  rfl

theorem agree_prove (inputs : ProverInputs) :
    Agree bench.scratch dir (prove bench (proverCallOf bench inputs))
      (prove (bench.movedTo dir) (proverCallOf (bench.movedTo dir) inputs)) := by
  simp only [prove, start_prover_moved dir hb]
  cases bench.prover.start bench.limit (proverCallOf bench inputs) with
  | error e => exact .of_eq rfl
  | ok ended =>
    dsimp only
    split_ifs
    · exact Artifact.agree_load bench.scratch dir "proof.json" ended.output
    · exact .of_eq rfl

theorem alike_verify (scenario : Scenario scheme) (queries : Nat) (artifact damaged : Artifact)
    (s : σ) :
    Alike bench.scratch dir (verify bench scenario queries artifact damaged s)
      (verify (bench.movedTo dir) scenario queries artifact damaged s) := by
  refine Alike.called ?_ rfl rfl
  rw [start_verifier_moved dir hb]
  cases bench.verifier.start bench.limit (verifierCallOf bench damaged) with
  | error e => exact alike_done (.of_eq rfl) s
  | ok judged =>
    refine Alike.report ?_ scenario .verified _
    rcases (agree_checkOutcome dir scenario.expectation artifact judged).outcomes with
      ⟨u, h, h'⟩ | ⟨e, f, h, h', halike⟩
    · rw [h, h']
      exact (alike_done (.of_eq rfl) s).report scenario .asserted _
    · rw [h, h']
      exact alike_done (.error halike) s

variable [RandomSource σ]

theorem alike_challenge (scenario : Scenario scheme) (queries : Nat) (artifact : Artifact) (s : σ) :
    Alike bench.scratch dir (challenge bench scenario queries artifact s)
      (challenge (bench.movedTo dir) scenario queries artifact s) := by
  unfold challenge
  cases damage scenario artifact s with
  | mk r s₁ =>
    cases r with
    | error e => exact alike_done (.of_eq rfl) s₁
    | ok damaged =>
      exact (alike_verify dir hb scenario queries artifact damaged s₁).report scenario .mutated _

theorem alike_attempt (scenario : Scenario scheme) (inputs : ProverInputs) (s : σ) :
    Alike bench.scratch dir (attempt bench scenario inputs s)
      (attempt (bench.movedTo dir) scenario inputs s) := by
  refine Alike.called ?_ rfl rfl
  rcases (agree_prove dir hb inputs).outcomes with ⟨artifact, h, h'⟩ | ⟨e, f, h, h', halike⟩
  · rw [h, h']
    exact (alike_challenge dir hb scenario _ artifact s).report scenario .proved _
  · rw [h, h']
    exact alike_done (.error halike) s

/-- A trial goes the same way in every directory. -/
theorem alike_run (scenario : Scenario scheme) (s : σ) :
    Alike bench.scratch dir (run bench scenario s) (run (bench.movedTo dir) scenario s) := by
  refine Alike.report ?_ scenario .init _
  rw [show (bench.movedTo dir).permutation = bench.permutation from rfl]
  cases ProverInputs.prepare scheme scenario.source scenario.zeroKnowledge bench.permutation s with
  | mk r s₁ =>
    cases r with
    | error e => exact alike_done (.of_eq rfl) s₁
    | ok inputs =>
      exact (alike_attempt dir hb scenario inputs s₁).report scenario .inputsPrepared _

end Moved

end Trial
end ProofTrial
