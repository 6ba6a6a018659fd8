import ProofTrial.Proofs.Trial.Scratch
import ProofTrial.Proofs.Trial.Stages
import ProofTrial.Suite

/-! The report on a table. A suite runs exactly when both of its programs are files; then the result
at each place is that of the scenario alone on the source of its place, in whatever order the trials
finish. What a result says about one trial does not contradict itself. -/
namespace ProofTrial

theorem Error.isInfrastructure_iff (e : Error) :
    e.isInfrastructure = true ↔ e.kind ∈ ["external_process", "timeout", "io"] := by
  cases e <;> simp [isInfrastructure, kind]

namespace ScenarioResult

/-- The fields of a result tell one story. -/
structure Consistent (r : ScenarioResult) : Prop where
  lastStage : r.passed = true ↔ r.lastStage = .asserted
  errorKind : r.passed = true ↔ r.errorKind = none
  error : r.passed = true ↔ r.error = none
  proofBytes : r.passed = true ↔ r.proofBytes.isSome = true
  queries : r.passed = true ↔ r.queries.isSome = true
  failed : r.passed = false → r.verifierExitCode = none
  accepted : r.passed = true → r.expectation = .accept → r.verifierExitCode = some 0
  rejected : r.passed = true → r.expectation = .reject → r.verifierExitCode ≠ some 0
  infrastructure : r.infrastructureFailure = true ↔
    ∃ kind ∈ ["external_process", "timeout", "io"], r.errorKind = some kind

/-- Results that differ in their times, and in the wording of an error by the directory in it. -/
structure Alike (dir dir' : String) (r r' : ScenarioResult) : Prop where
  fields : { r' with error := r.error, elapsedMs := r.elapsedMs } = r
  error : (r.error = none ∧ r'.error = none) ∨
    ∃ e f, Error.Alike dir dir' e f ∧ r.error = some e.message ∧ r'.error = some f.message

variable {σ : Type} {scheme : Scheme} (index : Nat) (scenario : Scenario scheme)

theorem index_ofTrial (elapsedMs : Nat) (t : Trial σ) :
    (ofTrial index scenario elapsedMs t).index = index := by
  unfold ofTrial
  cases t.result <;> rfl

theorem consistent_ofTrial [RandomSource σ] (elapsedMs : Nat) (bench : Bench) (s : σ) :
    (ofTrial index scenario elapsedMs (Trial.run bench scenario s)).Consistent := by
  have hlast := Trial.lastStage_eq_asserted bench scenario s
  unfold ofTrial
  cases hr : (Trial.run bench scenario s).result with
  | ok o =>
    obtain ⟨haccept, hreject⟩ := Trial.exitCode_of_ok hr
    constructor
    case accepted => exact fun _ => haccept
    case rejected => exact fun _ => hreject
    all_goals simp [hlast, hr]
  | error e =>
    have hinfrastructure := e.isInfrastructure_iff
    constructor
    case infrastructure => simpa using hinfrastructure
    all_goals simp [hlast, hr]

theorem alike_ofTrial {dir dir' : String} {t u : Trial σ} (h : Trial.Alike dir dir' t u)
    (elapsedMs elapsedMs' : Nat) :
    Alike dir dir' (ofTrial index scenario elapsedMs t) (ofTrial index scenario elapsedMs' u) := by
  have hlast : t.lastStage = u.lastStage := by
    rw [Trial.lastStage, Trial.lastStage, h.progress]
  rcases h.result.outcomes with ⟨o, ht, hu⟩ | ⟨e, f, ht, hu, halike⟩
  · simp only [ofTrial, ht, hu, hlast]
    exact ⟨rfl, .inl ⟨rfl, rfl⟩⟩
  · simp only [ofTrial, ht, hu, hlast]
    refine ⟨?_, .inr ⟨e, f, halike, rfl, rfl⟩⟩
    rw [halike.kind_eq, halike.isInfrastructure_eq]

end ScenarioResult

namespace SuiteReport

theorem passed_add_failed (r : SuiteReport) : r.passed + r.failed = r.results.length := by
  have hle : r.passed ≤ r.results.length := List.countP_le_length
  unfold failed
  omega

theorem failed_eq_zero (r : SuiteReport) : r.failed = 0 ↔ ∀ x ∈ r.results, x.passed = true := by
  have htotal := r.passed_add_failed
  rw [← List.countP_eq_length]
  change r.failed = 0 ↔ r.passed = r.results.length
  omega

theorem allPassed_iff (r : SuiteReport) : r.allPassed = true ↔ r.failed = 0 := by
  rw [failed_eq_zero, allPassed, List.all_eq_true]

end SuiteReport

namespace Suite

/-- The order of the table does not depend on the order of the finish. -/
theorem inTableOrder_eq {n : Nat} {α : Type} (completion : Completion n) (f : Fin n → α) :
    inTableOrder (completion.order.map fun i => (i, f i)) =
      (List.finRange n).map fun i => (i, f i) := by
  have hplace : ∀ i ∈ List.finRange n,
      ((completion.order.map fun i => (i, f i)).lookup i).map (fun a => (i, a)) =
        some (i, f i) := by
    intro i _
    rw [List.lookup_graph f (completion.complete i)]
    rfl
  rw [inTableOrder, List.filterMap_congr hplace]
  exact congrFun List.filterMap_eq_map _

theorem checkPrograms_eq (bench : Bench) : checkPrograms bench =
    if bench.prover.isFile ∧ bench.verifier.isFile then .ok ()
    else .error (.externalProgram
      (if bench.prover.isFile then bench.verifier.path else bench.prover.path) .notFound) := by
  unfold checkPrograms Program.checkPresent
  cases bench.prover.isFile <;> cases bench.verifier.isFile <;> rfl

variable {scheme : Scheme} (bench : Bench) (seed : Nat) (elapsed : Nat → Nat)
  (scenarios : List (Scenario scheme))

/-- The result of the scenario at a place, run alone on the source of its place. -/
def resultAt (i : Fin scenarios.length) : ScenarioResult :=
  .ofTrial i.val (scenarios.get i) (elapsed i.val)
    (Trial.run bench (scenarios.get i) (scenarioSource seed scheme.name i.val))

/-- What the report on a table says. -/
def reportOf : SuiteReport where
  scheme := scheme.name
  seed := seed
  results := (List.finRange scenarios.length).map (resultAt bench seed elapsed scenarios)

theorem run_eq (completion : Completion scenarios.length) :
    run bench seed elapsed scenarios completion = (checkPrograms bench).map fun _ =>
      ⟨reportOf bench seed elapsed scenarios, (List.finRange scenarios.length).map fun i =>
        (Trial.run bench (scenarios.get i) (scenarioSource seed scheme.name i.val)).progress⟩ := by
  unfold run
  cases checkPrograms bench with
  | error e => rfl
  | ok u =>
    dsimp only
    rw [inTableOrder_eq completion fun i =>
      Trial.run bench (scenarios.get i) (scenarioSource seed scheme.name i.val),
      List.map_map, List.map_map]
    rfl

/-- The report has a result for each place of the table, as if its scenario were the only one, and
also as if that one ran elsewhere. -/
structure Faithful (report : SuiteReport) : Prop where
  schemeName : report.scheme = scheme.name
  masterSeed : report.seed = seed
  length : report.results.length = scenarios.length
  alone : ∀ i : Fin scenarios.length,
    report.results[i.val]? = some (resultAt bench seed elapsed scenarios i)
  index : ∀ (i : Nat) (r : ScenarioResult), report.results[i]? = some r → r.index = i
  moved : bench.PathBlind → ∀ (dir : String) (elapsed' : Nat → Nat) (i : Fin scenarios.length)
    (r : ScenarioResult), report.results[i.val]? = some r →
      r.Alike bench.scratch dir (resultAt (bench.movedTo dir) seed elapsed' scenarios i)
  consistent : ∀ r ∈ report.results, r.Consistent
  total : report.passed + report.failed = report.results.length
  allPassed : report.allPassed = true ↔ report.failed = 0

theorem getElem?_reportOf (i : Fin scenarios.length) :
    (reportOf bench seed elapsed scenarios).results[i.val]? =
      some (resultAt bench seed elapsed scenarios i) := by
  simp [reportOf]

theorem length_reportOf :
    (reportOf bench seed elapsed scenarios).results.length = scenarios.length := by
  simp [reportOf]

theorem faithful_reportOf :
    Faithful bench seed elapsed scenarios (reportOf bench seed elapsed scenarios) where
  schemeName := rfl
  masterSeed := rfl
  length := length_reportOf bench seed elapsed scenarios
  alone := getElem?_reportOf bench seed elapsed scenarios
  index i r h := by
    obtain ⟨hi, _⟩ := List.getElem?_eq_some_iff.mp h
    rw [length_reportOf] at hi
    rw [getElem?_reportOf bench seed elapsed scenarios ⟨i, hi⟩] at h
    rw [← Option.some.inj h]
    exact ScenarioResult.index_ofTrial _ _ _ _
  moved hb dir elapsed' i r h := by
    rw [getElem?_reportOf] at h
    rw [← Option.some.inj h]
    exact ScenarioResult.alike_ofTrial _ _ (Trial.alike_run dir hb _ _) _ _
  consistent r h := by
    obtain ⟨i, _, rfl⟩ := List.mem_map.mp h
    exact ScenarioResult.consistent_ofTrial _ _ _ _ _
  total := SuiteReport.passed_add_failed _
  allPassed := SuiteReport.allPassed_iff _

/-- What the trials of a suite reported, nothing when it could not run. -/
def reported : Except Error Finished → List (List Progress)
  | .ok finished => finished.progress
  | .error _ => []

/-- Both programs are there. -/
def Installed (bench : Bench) : Prop :=
  bench.prover.isFile = true ∧ bench.verifier.isFile = true

/-- What a suite may come to: without its programs it fails before any trial starts, with them it
reports on every scenario of its table. -/
structure Answers (r : Except Error Finished) : Prop where
  missing : ¬ Installed bench →
    (∃ e, r = .error e ∧ e.kind = "external_process") ∧ reported r = []
  installed : Installed bench →
    (∃ finished, r = .ok finished ∧ Faithful bench seed elapsed scenarios finished.report) ∧
      reported r = (List.finRange scenarios.length).map fun i =>
        (Trial.run bench (scenarios.get i) (scenarioSource seed scheme.name i.val)).progress

theorem answers_run (completion : Completion scenarios.length) :
    Answers bench seed elapsed scenarios (run bench seed elapsed scenarios completion) := by
  rw [run_eq, checkPrograms_eq]
  constructor
  · intro h
    unfold Installed at h
    rw [if_neg h]
    exact ⟨⟨_, rfl, rfl⟩, rfl⟩
  · intro h
    unfold Installed at h
    rw [if_pos h]
    exact ⟨⟨_, rfl, faithful_reportOf bench seed elapsed scenarios⟩, rfl⟩

theorem faithful_of_run {completion : Completion scenarios.length} {finished : Finished}
    (h : run bench seed elapsed scenarios completion = .ok finished) :
    Faithful bench seed elapsed scenarios finished.report := by
  rw [run_eq] at h
  obtain ⟨_, _, rfl⟩ := Json.except_map_eq_ok.mp h
  exact faithful_reportOf bench seed elapsed scenarios

end Suite
end ProofTrial
