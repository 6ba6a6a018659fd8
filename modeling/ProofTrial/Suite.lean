import ProofTrial.BigEndian
import ProofTrial.Random.ChaCha
import ProofTrial.Trial.Basic

/-!
A table of scenarios, and the report on it. Each scenario has a random source of its own, keyed
by the master seed, the scheme and its place in the table, so the trials may finish in any order;
the report has them in the order of the table.
-/
namespace ProofTrial

structure ScenarioResult where
  index : Nat
  scenario : String
  expectation : Expectation
  passed : Bool
  lastStage : Stage
  verifierExitCode : ExitCode
  proofBytes : Option Nat
  queries : Option Nat
  errorKind : Option String
  infrastructureFailure : Bool
  error : Option String
  elapsedMs : Nat
  deriving DecidableEq, Repr

/-- The scheme is given by its name. -/
structure SuiteReport where
  scheme : String
  seed : Nat
  results : List ScenarioResult
  deriving DecidableEq, Repr

namespace ScenarioResult

def optionJson (f : α → Json) : Option α → Json
  | none => .null
  | some a => f a

def toJson (r : ScenarioResult) : Json :=
  .object [
    ("index", .integer r.index),
    ("scenario", .string r.scenario),
    ("expectation", .string r.expectation.name),
    ("passed", .bool r.passed),
    ("last_stage", .string r.lastStage.label),
    ("verifier_exit_code", optionJson .integer r.verifierExitCode),
    ("proof_bytes", optionJson (fun n : Nat => .integer n) r.proofBytes),
    ("n_queries", optionJson (fun n : Nat => .integer n) r.queries),
    ("error_kind", optionJson .string r.errorKind),
    ("infrastructure_failure", .bool r.infrastructureFailure),
    ("error", optionJson .string r.error),
    ("elapsed_ms", .integer r.elapsedMs)]

/-- The result of a trial at a place of the table. -/
def ofTrial (index : Nat) (scenario : Scenario scheme) (elapsedMs : Nat) (t : Trial σ) :
    ScenarioResult :=
  match t.result with
  | .ok o => {
      index := index
      scenario := scenario.name
      expectation := scenario.expectation
      passed := true
      lastStage := t.lastStage
      verifierExitCode := o.verifierExitCode
      proofBytes := some o.proofBytes
      queries := some o.queries
      errorKind := none
      infrastructureFailure := false
      error := none
      elapsedMs := elapsedMs }
  | .error e => {
      index := index
      scenario := scenario.name
      expectation := scenario.expectation
      passed := false
      lastStage := t.lastStage
      verifierExitCode := none
      proofBytes := none
      queries := none
      errorKind := some e.kind
      infrastructureFailure := e.isInfrastructure
      error := some e.message
      elapsedMs := elapsedMs }

/-- Blanks in front up to a width in characters. -/
def padStart (width : Nat) (text : String) : String :=
  String.ofList (List.replicate (width - text.length) ' ' ++ text.toList)

/-- Blanks behind up to a width in characters. -/
def padEnd (width : Nat) (text : String) : String :=
  String.ofList (text.toList ++ List.replicate (width - text.length) ' ')

/-- The line of a summary; times end in a column of their own. -/
def summaryLine (r : ScenarioResult) : String :=
  "\n  [" ++ (if r.passed then "  ok" else "FAIL") ++ "] " ++ padEnd 24 r.scenario ++ " " ++
    padStart 6 (toString r.elapsedMs) ++ " ms" ++
    (match r.error with
    | none => ""
    | some text => "  " ++ text)

end ScenarioResult

namespace SuiteReport

def passed (r : SuiteReport) : Nat := r.results.countP (·.passed)

def failed (r : SuiteReport) : Nat := r.results.length - r.passed

def allPassed (r : SuiteReport) : Bool := r.results.all (·.passed)

/-- Whether a program did not end within its time limit. -/
def timedOut (r : SuiteReport) : Bool := r.results.any (·.errorKind == some "timeout")

def toJson (r : SuiteReport) : Json :=
  .object [
    ("scheme", .string r.scheme),
    ("seed", .integer r.seed),
    ("results", .array (r.results.map ScenarioResult.toJson))]

def summary (r : SuiteReport) : String :=
  r.scheme ++ " suite (seed " ++ toString r.seed ++ "): " ++ toString r.passed ++ "/" ++
    toString r.results.length ++ " passed" ++
    String.join (r.results.map ScenarioResult.summaryLine)

end SuiteReport

namespace Suite

/-- What the key of a scenario's random source is the digest of. -/
def sourceMessage (seed : Nat) (schemeName : String) (index : Nat) : List UInt8 :=
  BigEndian.bytes 8 seed ++ (schemeName.toUTF8.data.toList ++ BigEndian.bytes 8 index)

def scenarioSource (seed : Nat) (schemeName : String) (index : Nat) : ChaCha :=
  .ofKey (Blake2s.digest (sourceMessage seed schemeName index))

/-- The order in which the trials of a table of `n` finish. -/
structure Completion (n : Nat) where
  order : List (Fin n)
  complete : ∀ i, i ∈ order

/-- One trial after the other. -/
def Completion.inTurn (n : Nat) : Completion n where
  order := List.finRange n
  complete i := by simp [List.finRange]

/-- What each place has, whenever it got it. -/
def inTableOrder {n : Nat} (finished : List (Fin n × α)) : List (Fin n × α) :=
  (List.finRange n).filterMap fun i => (finished.lookup i).map fun a => (i, a)

/-- A finished suite: its report and what each trial reported, in the order of the table. -/
structure Finished where
  report : SuiteReport
  progress : List (List Progress)

/-- Both programs must exist before any trial starts. -/
def checkPrograms (bench : Bench) : Except Error Unit :=
  match bench.prover.checkPresent with
  | .error e => .error e
  | .ok () => bench.verifier.checkPresent

/-- Runs a table; `elapsed` tells how long each trial took. -/
def run (bench : Bench) (seed : Nat) (elapsed : Nat → Nat) (scenarios : List (Scenario scheme))
    (completion : Completion scenarios.length) : Except Error Finished :=
  match checkPrograms bench with
  | .error e => .error e
  | .ok () =>
    let trials := inTableOrder (completion.order.map fun i =>
      (i, Trial.run bench (scenarios.get i) (scenarioSource seed scheme.name i.val)))
    .ok {
      report := {
        scheme := scheme.name
        seed := seed
        results := trials.map fun (i, t) => .ofTrial i.val (scenarios.get i) (elapsed i.val) t }
      progress := trials.map fun (_, t) => t.progress }

end Suite
end ProofTrial
