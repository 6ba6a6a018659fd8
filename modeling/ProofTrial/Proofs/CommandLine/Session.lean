import ProofTrial.CommandLine.Session
import ProofTrial.Proofs.Suite

/-! How a run of the suites ends. It completes when its options are understood, every suite of the
schemes that were asked for runs, and the report is written; its exit code then tells whether all
scenarios passed. Otherwise it fails, or crashes in a suite whose time limits end later than the
clock can show. -/
namespace ProofTrial.CommandLine.Session

variable {σ : Type}

/-- A suite runs, its trials finishing in any order. -/
def SuiteRuns [RandomSource σ] (host : Host) (config : Config) (scheme : Scheme) (s : σ)
    (finished : Suite.Finished) : Prop :=
  ∃ permute completion, permutationOf host config = .ok permute ∧
    Suite.run (benchOf host config permute scheme) (seedOf config s).1 (host.elapsed scheme)
      (Scenario.table scheme) completion = .ok finished

/-- The clock can show when time limits end, or no trial waited for the end of one. -/
def InTime (host : Host) (config : Config) (report : SuiteReport) : Prop :=
  host.shows config.limit = true ∨ ∀ r ∈ report.results, r.errorKind ≠ some "timeout"

/-- The suites of the schemes run in turn. -/
inductive Ran [RandomSource σ] (host : Host) (config : Config) :
    List Scheme → σ → List SuiteReport → Prop where
  | nil (s : σ) : Ran host config [] s []
  | cons {scheme : Scheme} {rest : List Scheme} {s : σ} {finished : Suite.Finished}
      {reports : List SuiteReport} (hr : SuiteRuns host config scheme s finished)
      (hin : InTime host config finished.report)
      (ht : Ran host config rest (seedOf config s).2 reports) :
      Ran host config (scheme :: rest) s (finished.report :: reports)

/-- The suites of the schemes run in turn up to one that crashes. -/
inductive Crashed [RandomSource σ] (host : Host) (config : Config) : List Scheme → σ → Prop where
  | here {scheme : Scheme} {rest : List Scheme} {s : σ} {finished : Suite.Finished}
      (hr : SuiteRuns host config scheme s finished) (hin : ¬ InTime host config finished.report) :
      Crashed host config (scheme :: rest) s
  | later {scheme : Scheme} {rest : List Scheme} {s : σ} {finished : Suite.Finished}
      (hr : SuiteRuns host config scheme s finished) (hin : InTime host config finished.report)
      (ht : Crashed host config rest (seedOf config s).2) :
      Crashed host config (scheme :: rest) s

/-- The file of the report can be written, if there is to be one. -/
def Written (host : Host) (o : RunOptions) (reports : List SuiteReport) : Prop :=
  ∀ path, o.report = some path →
    ∃ tree, host.tree.write path (Json.array (reports.map SuiteReport.toJson)).pretty = .ok tree

/-- A run with these options comes to running the suites of these schemes. -/
inductive Asks (host : Host) (arguments : Arguments) (o : RunOptions) (config : Config)
    (schemes : List Scheme) : Prop where
  | intro {base : Config} (hb : configOf host arguments = .ok base)
      (hc : withOptions base o = .ok config) (hs : schemesOf o.scheme = .ok schemes)

/-- A run with these options comes to these reports. -/
inductive Completes [RandomSource σ] (host : Host) (arguments : Arguments) (o : RunOptions) (s : σ)
    (reports : List SuiteReport) : Prop where
  | intro {config : Config} {schemes : List Scheme} (ha : Asks host arguments o config schemes)
      (hr : Ran host config schemes s reports) (hw : Written host o reports)

/-- A run with these options crashes. -/
inductive Crashes [RandomSource σ] (host : Host) (arguments : Arguments) (o : RunOptions) (s : σ) :
    Prop where
  | intro {config : Config} {schemes : List Scheme} (ha : Asks host arguments o config schemes)
      (hr : Crashed host config schemes s)

section Endings

variable (host : Host)

@[simp] theorem result_done (r : Except Failure Bool) (s : σ) : (done host r s).result = r := rfl

@[simp] theorem result_fail (e : Error) (s : σ) :
    (fail host e s).result = .error (.error e) := rfl

@[simp] theorem result_print (lines : List String) (session : Session σ) :
    (print lines session).result = session.result := rfl

theorem conclude_eq_ok (o : RunOptions) (reports : List SuiteReport) (s : σ) (b : Bool) :
    (conclude host o reports s).result = .ok b ↔
      Written host o reports ∧ reports.all SuiteReport.allPassed = b := by
  unfold conclude Written
  cases o.report with
  | none => simp
  | some path =>
    cases hw : host.tree.write path (Json.array (reports.map SuiteReport.toJson)).pretty with
    | error f => simp [hw]
    | ok tree => simp [hw]

theorem conclude_ne_crash (o : RunOptions) (reports : List SuiteReport) (s : σ) (c : Crash) :
    (conclude host o reports s).result ≠ .error (.crash c) := by
  unfold conclude
  cases o.report with
  | none => simp
  | some path =>
    cases hw : host.tree.write path (Json.array (reports.map SuiteReport.toJson)).pretty <;>
      simp [hw]

theorem crashed_iff (config : Config) (report : SuiteReport) :
    crashed host config report = true ↔ ¬ InTime host config report := by
  simp [crashed, SuiteReport.timedOut, InTime]

variable [RandomSource σ]

/-- The order in which the trials finish does not show in a suite. -/
theorem runSuite_eq_ok {config : Config} {scheme : Scheme} {s : σ} {finished : Suite.Finished} :
    (runSuite host config scheme s).1 = .ok finished ↔ SuiteRuns host config scheme s finished := by
  unfold runSuite SuiteRuns
  cases hp : permutationOf host config with
  | error e => simp
  | ok permute =>
    constructor
    · intro hr
      exact ⟨permute, .inTurn _, rfl, hr⟩
    · rintro ⟨p, completion, hp', hr⟩
      obtain rfl := Except.ok.inj hp'
      rw [Suite.run_eq] at hr
      dsimp only
      rw [Suite.run_eq, hr]

theorem source_runSuite {config : Config} {scheme : Scheme} {s : σ} {finished : Suite.Finished}
    (h : (runSuite host config scheme s).1 = .ok finished) :
    (runSuite host config scheme s).2 = (seedOf config s).2 := by
  obtain ⟨permute, _, hp, _⟩ := (runSuite_eq_ok host).mp h
  simp only [runSuite, hp]

/-- What the first suite does to a run of suites: it cannot run, it crashes, or the others follow. -/
theorem runSuites_cons (config : Config) (verbose : Bool) (o : RunOptions)
    (before : List SuiteReport) (scheme : Scheme) (rest : List Scheme) (s : σ) :
    ((∀ finished, ¬ SuiteRuns host config scheme s finished) ∧
      ∃ e, (runSuites host config verbose o before (scheme :: rest) s).result =
        .error (.error e)) ∨
    ∃ finished, (∀ other, SuiteRuns host config scheme s other ↔ finished = other) ∧
      (¬ InTime host config finished.report ∧
        (runSuites host config verbose o before (scheme :: rest) s).result =
          .error (.crash .deadline) ∨
      InTime host config finished.report ∧
        (runSuites host config verbose o before (scheme :: rest) s).result =
          (runSuites host config verbose o (before ++ [finished.report]) rest
            (seedOf config s).2).result) := by
  have hsource := @source_runSuite _ host _ config scheme s
  have hsuite := @runSuite_eq_ok _ host _ config scheme s
  rw [runSuites]
  generalize runSuite host config scheme s = ran at hsource hsuite
  obtain ⟨r, t⟩ := ran
  cases r with
  | error e =>
    refine .inl ⟨fun finished h => ?_, e, rfl⟩
    exact nomatch hsuite.mpr h
  | ok finished =>
    obtain rfl := hsource rfl
    refine .inr ⟨finished, fun other => by rw [← hsuite, Except.ok.injEq], ?_⟩
    dsimp only
    rw [result_print]
    by_cases hin : InTime host config finished.report
    · have hc := (crashed_iff host config finished.report).not_left.mpr hin
      exact .inr ⟨hin, by rw [if_neg hc]⟩
    · have hc := (crashed_iff host config finished.report).mpr hin
      exact .inl ⟨hin, by rw [if_pos hc, result_done]⟩

/-- A run of suites comes to an end when all of them run and the report is written. -/
theorem runSuites_eq_ok (config : Config) (verbose : Bool) (o : RunOptions)
    (before : List SuiteReport) (schemes : List Scheme) (s : σ) (b : Bool) :
    (runSuites host config verbose o before schemes s).result = .ok b ↔
      ∃ reports, Ran host config schemes s reports ∧ Written host o (before ++ reports) ∧
        (before ++ reports).all SuiteReport.allPassed = b := by
  induction schemes generalizing before s with
  | nil =>
    rw [runSuites, conclude_eq_ok]
    constructor
    · rintro ⟨hw, hb⟩
      exact ⟨[], .nil s, by rwa [List.append_nil], by rwa [List.append_nil]⟩
    · rintro ⟨_, ⟨⟩, hw, hb⟩
      rw [List.append_nil] at hw hb
      exact ⟨hw, hb⟩
  | cons scheme rest ih =>
    rcases runSuites_cons host config verbose o before scheme rest s with
      ⟨hno, e, he⟩ | ⟨finished, hruns, ⟨hin, hc⟩ | ⟨hin, hnext⟩⟩
    · rw [he]
      refine ⟨nofun, ?_⟩
      rintro ⟨_, hran, _⟩
      cases hran with
      | cons hr _ _ => exact absurd hr (hno _)
    · rw [hc]
      refine ⟨nofun, ?_⟩
      rintro ⟨_, hran, _⟩
      cases hran with
      | cons hr hin' _ => exact absurd ((hruns _).mp hr ▸ hin') hin
    · rw [hnext, ih]
      constructor
      · rintro ⟨reports, hran, hw, hb⟩
        rw [List.append_assoc] at hw hb
        exact ⟨_, .cons ((hruns _).mpr rfl) hin hran, hw, hb⟩
      · rintro ⟨_, hran, hw, hb⟩
        cases hran with
        | cons hr _ ht =>
          obtain rfl := (hruns _).mp hr
          refine ⟨_, ht, ?_, ?_⟩
          · rwa [List.append_assoc]
          · rwa [List.append_assoc]

/-- A run of suites crashes in the first suite that crashes. -/
theorem runSuites_eq_crash (config : Config) (verbose : Bool) (o : RunOptions)
    (before : List SuiteReport) (schemes : List Scheme) (s : σ) :
    (∃ c, (runSuites host config verbose o before schemes s).result = .error (.crash c)) ↔
      Crashed host config schemes s := by
  induction schemes generalizing before s with
  | nil =>
    rw [runSuites]
    constructor
    · rintro ⟨c, hc⟩
      exact absurd hc (conclude_ne_crash host o before s c)
    · rintro ⟨⟩
  | cons scheme rest ih =>
    rcases runSuites_cons host config verbose o before scheme rest s with
      ⟨hno, e, he⟩ | ⟨finished, hruns, ⟨hin, hc⟩ | ⟨hin, hnext⟩⟩
    · rw [he]
      refine ⟨nofun, ?_⟩
      rintro (⟨hr, _⟩ | ⟨hr, _, _⟩) <;> exact absurd hr (hno _)
    · exact ⟨fun _ => .here ((hruns _).mpr rfl) hin, fun _ => ⟨_, hc⟩⟩
    · rw [hnext, ih]
      constructor
      · exact .later ((hruns _).mpr rfl) hin
      · rintro (⟨hr, hin'⟩ | ⟨_, _, ht⟩)
        · exact absurd ((hruns _).mp hr ▸ hin) hin'
        · exact ht

/-- How a run ends when it comes to running suites; otherwise it fails. -/
theorem result_run {arguments : Arguments} {o : RunOptions} (ho : arguments.command = .run o)
    (s : σ) :
    ((∀ config schemes, ¬ Asks host arguments o config schemes) ∧
      ∃ e, (run host arguments s).result = .error (.error e)) ∨
    ∃ config schemes,
      (∀ config' schemes', Asks host arguments o config' schemes' ↔
        config' = config ∧ schemes' = schemes) ∧
      (run host arguments s).result =
        (runSuites host config arguments.verbose o [] schemes s).result := by
  unfold run
  cases hb : configOf host arguments with
  | error e =>
    refine .inl ⟨fun _ _ ⟨hb', _, _⟩ => ?_, e, rfl⟩
    exact nomatch hb.symm.trans hb'
  | ok base =>
    simp only [ho, runAll]
    cases hc : withOptions base o with
    | error e =>
      refine .inl ⟨fun _ _ ⟨hb', hc', _⟩ => ?_, e, rfl⟩
      obtain rfl := Except.ok.inj (hb.symm.trans hb')
      exact nomatch hc.symm.trans hc'
    | ok config =>
      simp only [result_print]
      cases hs : schemesOf o.scheme with
      | error e =>
        refine .inl ⟨fun _ _ ⟨_, _, hs'⟩ => ?_, e, rfl⟩
        exact nomatch hs.symm.trans hs'
      | ok schemes =>
        refine .inr ⟨config, schemes, fun config' schemes' => ⟨?_, ?_⟩, rfl⟩
        · rintro ⟨hb', hc', hs'⟩
          obtain rfl := Except.ok.inj (hb.symm.trans hb')
          exact ⟨Except.ok.inj (hc'.symm.trans hc), Except.ok.inj (hs'.symm.trans hs)⟩
        · rintro ⟨rfl, rfl⟩
          exact .intro hb hc hs

/-- A run ends with a verdict exactly when it completes, and the verdict is on all reports. -/
theorem run_eq_ok {arguments : Arguments} {o : RunOptions} (ho : arguments.command = .run o) (s : σ)
    (b : Bool) : (run host arguments s).result = .ok b ↔
      ∃ reports, Completes host arguments o s reports ∧
        reports.all SuiteReport.allPassed = b := by
  rcases result_run host ho s with ⟨hno, e, he⟩ | ⟨config, schemes, hasks, hrun⟩
  · rw [he]
    refine ⟨nofun, ?_⟩
    rintro ⟨_, ⟨ha, _, _⟩, _⟩
    exact absurd ha (hno _ _)
  · rw [hrun, runSuites_eq_ok]
    constructor
    · rintro ⟨reports, hr, hw, hall⟩
      exact ⟨reports, .intro ((hasks _ _).mpr ⟨rfl, rfl⟩) hr hw, hall⟩
    · rintro ⟨reports, ⟨ha, hr, hw⟩, hall⟩
      obtain ⟨rfl, rfl⟩ := (hasks _ _).mp ha
      exact ⟨reports, hr, hw, hall⟩

theorem run_eq_crash {arguments : Arguments} {o : RunOptions} (ho : arguments.command = .run o)
    (s : σ) : (∃ c, (run host arguments s).result = .error (.crash c)) ↔
      Crashes host arguments o s := by
  rcases result_run host ho s with ⟨hno, e, he⟩ | ⟨config, schemes, hasks, hrun⟩
  · rw [he]
    refine ⟨nofun, ?_⟩
    rintro ⟨ha, _⟩
    exact absurd ha (hno _ _)
  · rw [hrun, runSuites_eq_crash]
    constructor
    · exact .intro ((hasks _ _).mpr ⟨rfl, rfl⟩)
    · rintro ⟨ha, hr⟩
      obtain ⟨rfl, rfl⟩ := (hasks _ _).mp ha
      exact hr

theorem seed_seedOf {config : Config} {n : Nat} (h : config.seed = some n) (s : σ) :
    (seedOf config s).1 = n := by
  simp only [seedOf, h]

/-- What a suite of a configuration reports on: the whole table of its scheme, under the seed of the
configuration if it has one. -/
def ReportsOn (config : Config) (scheme : Scheme) (report : SuiteReport) : Prop :=
  ∃ permute seed, permutationOf host config = .ok permute ∧
    (∀ n, config.seed = some n → seed = n) ∧
    Suite.Faithful (benchOf host config permute scheme) seed (host.elapsed scheme)
      (Scenario.table scheme) report

theorem reportsOn_of_ran {config : Config} {schemes : List Scheme} {s : σ}
    {reports : List SuiteReport} (h : Ran host config schemes s reports) :
    List.Forall₂ (ReportsOn host config) schemes reports := by
  induction h with
  | nil s => exact .nil
  | @cons _ _ s _ _ hr _ ht ih =>
    obtain ⟨permute, _, hp, hrun⟩ := hr
    exact .cons ⟨permute, _, hp, fun n hn => seed_seedOf hn s, Suite.faithful_of_run _ _ _ _ hrun⟩ ih

end Endings

section ExitCode

variable (session : Session σ)

theorem exitCode_eq_zero : session.exitCode = 0 ↔ session.result = .ok true := by
  unfold exitCode
  rcases session.result with (e | c) | (_ | _) <;> simp

theorem exitCode_eq_one : session.exitCode = 1 ↔ session.result = .ok false := by
  unfold exitCode
  rcases session.result with (e | c) | (_ | _) <;> simp

theorem exitCode_eq_two : session.exitCode = 2 ↔
    (∀ b, session.result ≠ .ok b) ∧ ¬ ∃ c, session.result = .error (.crash c) := by
  unfold exitCode
  rcases session.result with (e | c) | (_ | _) <;> simp

theorem exitCode_eq_crash :
    session.exitCode = 101 ↔ ∃ c, session.result = .error (.crash c) := by
  unfold exitCode
  rcases session.result with (e | c) | (_ | _) <;> simp

end ExitCode

theorem all_allPassed (reports : List SuiteReport) :
    reports.all SuiteReport.allPassed = true ↔ ∀ r ∈ reports, r.failed = 0 := by
  simp only [List.all_eq_true, SuiteReport.allPassed_iff]

end ProofTrial.CommandLine.Session
