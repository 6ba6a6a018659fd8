import ProofTrial.Artifact
import ProofTrial.Mutation.Checked
import ProofTrial.Trial.Inputs

/-!
One scenario, from its inputs to its verdict. A trial prepares the inputs, runs the prover,
damages what it left, runs the verifier on that and compares what it did with what the scenario
expects. `Trial` records what happened in order (the stages reached and what both programs were
given), the result, and the source of random words as the trial leaves it.
-/
namespace ProofTrial

/-- A file that a trial leaves for a program. -/
structure SavedFile where
  path : String
  text : String
  deriving DecidableEq, Repr

/-- What the first file at a path holds. -/
def SavedFile.contentAt (files : List SavedFile) (path : String) : Option ByteArray :=
  (files.find? (·.path == path)).map (·.text.toUTF8)

/-- What a prover is started with: its arguments, the files that they name, and the path where the
trial looks for the artifact. -/
structure ProverCall where
  arguments : List String
  parameters : SavedFile
  publicInput : SavedFile
  privateInput : SavedFile
  config : SavedFile
  output : String
  deriving DecidableEq, Repr

def ProverCall.files (call : ProverCall) : List SavedFile :=
  [call.parameters, call.publicInput, call.privateInput, call.config]

/-- What a verifier is started with: its arguments, the artifact that they name, and the path where
the trial looks for the annotations. -/
structure VerifierCall where
  arguments : List String
  artifact : SavedFile
  output : String
  deriving DecidableEq, Repr

def VerifierCall.files (call : VerifierCall) : List SavedFile := [call.artifact]

/-- A prover leaves the content of the output file, if it writes that. -/
abbrev Prover := Program ProverCall (Option ByteArray)

/-- A verifier leaves the content of the annotation file, if it writes that. -/
abbrev Verifier := Program VerifierCall (Option ByteArray)

structure Outcome where
  verifierExitCode : ExitCode
  proofBytes : Nat
  queries : Nat
  deriving DecidableEq, Repr

inductive Event where
  | reached (progress : Progress)
  | proverCalled (call : ProverCall)
  | verifierCalled (call : VerifierCall)
  deriving DecidableEq, Repr

namespace Event

def progress? : Event → Option Progress
  | reached p => some p
  | _ => none

def proverCall? : Event → Option ProverCall
  | proverCalled c => some c
  | _ => none

def verifierCall? : Event → Option VerifierCall
  | verifierCalled c => some c
  | _ => none

end Event

structure Trial (σ : Type) where
  events : List Event
  result : Except Error Outcome
  source : σ

/-- What a trial runs with. The clock is taken to show when its time limits end. `scratch` is the
directory of its files. -/
structure Bench where
  prover : Prover
  verifier : Verifier
  permutation : Permutation
  limit : Timespan
  scratch : String

namespace Trial

variable {σ : Type} [RandomSource σ] {scheme : Scheme}

def progress (t : Trial σ) : List Progress := t.events.filterMap Event.progress?

def proverCall? (t : Trial σ) : Option ProverCall := t.events.findSome? Event.proverCall?

def verifierCall? (t : Trial σ) : Option VerifierCall := t.events.findSome? Event.verifierCall?

/-- The last stage reached. -/
def lastStage (t : Trial σ) : Stage := (t.progress.getLast?.map Progress.stage).getD .init

/-- A trial that ends with the given result, and nothing happens any more. -/
def done (result : Except Error Outcome) (s : σ) : Trial σ := ⟨[], result, s⟩

/-- An event in front of those still to come. -/
def after (e : Event) (t : Trial σ) : Trial σ := { t with events := e :: t.events }

def report (scenario : Scenario scheme) (stage : Stage) (detail : String) (t : Trial σ) : Trial σ :=
  after (.reached ⟨scheme, scenario.name, stage, detail⟩) t

def fileIn (bench : Bench) (name : String) : String := bench.scratch ++ "/" ++ name

def flag (name path : String) : String := "--" ++ name ++ "=" ++ path

def artifactPath (bench : Bench) : String := fileIn bench "proof.json"

def modifiedPath (bench : Bench) : String := fileIn bench "modified_proof.json"

def annotationPath (bench : Bench) : String := fileIn bench "verifier_annotations.txt"

def proverCallOf (bench : Bench) (inputs : ProverInputs) : ProverCall :=
  let parameters : SavedFile :=
    ⟨fileIn bench "parameters.json", inputs.parameters.toJson.pretty⟩
  let publicInput : SavedFile := ⟨fileIn bench "public_input.json", inputs.publicInput.pretty⟩
  let privateInput : SavedFile := ⟨fileIn bench "private_input.json", inputs.privateInput.pretty⟩
  let config : SavedFile := ⟨fileIn bench "prover_config.json", inputs.config.toJson.pretty⟩
  let output := artifactPath bench
  { arguments := [
      flag "parameter_file" parameters.path,
      flag "public_input_file" publicInput.path,
      flag "private_input_file" privateInput.path,
      flag "out_file" output,
      "--generate_annotations",
      flag "prover_config_file" config.path,
      "--logtostderr"]
    parameters, publicInput, privateInput, config, output }

def verifierCallOf (bench : Bench) (artifact : Artifact) : VerifierCall :=
  let modified : SavedFile := ⟨modifiedPath bench, artifact.save⟩
  let output := annotationPath bench
  { arguments := [
      flag "in_file" modified.path,
      flag "annotation_file" output,
      "--logtostderr"]
    artifact := modified, output }

/-- Runs the prover; a failed one leaves no artifact, whatever it wrote. -/
def prove (bench : Bench) (call : ProverCall) : Except Error Artifact :=
  match bench.prover.start bench.limit call with
  | .error e => .error e
  | .ok e =>
    if e.success then Artifact.load (artifactPath bench) e.output
    else .error (.externalProgram bench.prover.path (.proverExited e.code))

/-- The artifact with the damage of the scenario: the proof first, then the claim. -/
def damage (scenario : Scenario scheme) (artifact : Artifact) (s : σ) :
    Except Error Artifact × σ :=
  match scenario.mutation.apply artifact.proofHex s with
  | (.error e, s) => (.error e, s)
  | (.ok proof, s) =>
    match scenario.corruption with
    | none => (.ok { artifact with proofHex := proof }, s)
    | some c =>
      let (claim, s) := c.apply artifact.publicInput s
      (claim.map fun v => { artifact with proofHex := proof, publicInput := v }, s)

/-- Whether `piece` stands somewhere in the text. -/
def occursIn (piece : List Char) : List Char → Bool
  | [] => piece.isEmpty
  | c :: r => piece.isPrefixOf (c :: r) || occursIn piece r

def prints (e : Ended ο) (marker : String) : Bool :=
  occursIn marker.toList e.diagnostics.toList

/-- The verifier succeeded and said so. -/
def accepted (scheme : Scheme) (e : Ended ο) : Bool := e.success && prints e scheme.successMarker

/-- The verifier failed and said that the proof is to blame. -/
def rejected (scheme : Scheme) (e : Ended ο) : Bool := !e.success && prints e scheme.failureMarker

/-- An accepting verifier that wrote no log differs from the first line on. -/
def checkAnnotations (path : String) (artifact : Artifact) (log : Option ByteArray) :
    Except Error Unit :=
  match log with
  | none => .error (.annotationMismatch 1)
  | some bytes =>
    match TextFile.readText path (some bytes) with
    | .error e => .error e
    | .ok text => AnnotationLog.compare artifact.annotationLog text

/-- Compares what the verifier did with what is expected. -/
def checkOutcome (scheme : Scheme) (expectation : Expectation) (path : String)
    (artifact : Artifact) (e : Ended (Option ByteArray)) : Except Error Unit :=
  match expectation with
  | .accept =>
    if accepted scheme e then checkAnnotations path artifact e.output
    else if rejected scheme e then .error (.unexpectedRejection scheme.name e.code)
    else .error (.outcomeMismatch scheme.name (.notAccepted e.code scheme.successMarker))
  | .reject =>
    if rejected scheme e then .ok ()
    else .error (.outcomeMismatch scheme.name (.notRejected e.code scheme.failureMarker))

/-- From the damaged artifact to the verdict. -/
def verify (bench : Bench) (scenario : Scenario scheme) (queries : Nat)
    (artifact damaged : Artifact) (s : σ) : Trial σ :=
  let call := verifierCallOf bench damaged
  after (.verifierCalled call)
    (match bench.verifier.start bench.limit call with
    | .error e => done (.error e) s
    | .ok e =>
      report scenario .verified ("exit code " ++ e.code.text)
        (match checkOutcome scheme scenario.expectation (annotationPath bench) artifact e with
        | .error f => done (.error f) s
        | .ok () =>
          report scenario .asserted "pass"
            (done (.ok ⟨e.code, artifact.proofLength, queries⟩) s)))

/-- From the prover's artifact on. -/
def challenge (bench : Bench) (scenario : Scenario scheme) (queries : Nat) (artifact : Artifact)
    (s : σ) : Trial σ :=
  match damage scenario artifact s with
  | (.error e, s) => done (.error e) s
  | (.ok damaged, s) =>
    report scenario .mutated scenario.damage (verify bench scenario queries artifact damaged s)

/-- From the prepared inputs on. -/
def attempt (bench : Bench) (scenario : Scenario scheme) (inputs : ProverInputs) (s : σ) :
    Trial σ :=
  let call := proverCallOf bench inputs
  after (.proverCalled call)
    (match prove bench call with
    | .error e => done (.error e) s
    | .ok artifact =>
      report scenario .proved (toString artifact.proofLength ++ " proof bytes")
        (challenge bench scenario inputs.parameters.fri.queries artifact s))

/-- Runs a scenario. -/
def run (bench : Bench) (scenario : Scenario scheme) (s : σ) : Trial σ :=
  let prepared :=
    ProverInputs.prepare scheme scenario.source scenario.zeroKnowledge bench.permutation s
  report scenario .init (scenario.source.title ++ " inputs")
    (match prepared with
    | (.error e, s) => done (.error e) s
    | (.ok inputs, s) =>
      report scenario .inputsPrepared (toString inputs.parameters.fri.queries ++ " queries")
        (attempt bench scenario inputs s))

end Trial
end ProofTrial
