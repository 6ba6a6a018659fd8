import ProofTrial.CommandLine.Arguments
import ProofTrial.Config
import ProofTrial.Program.Installed
import ProofTrial.Suite

/-!
The commands: writing the input files of one proof, and running the suites. A session is a value:
what was printed, how it ended, and the files as it leaves them. The commands that write files
make everything before they write anything.
-/
namespace ProofTrial.CommandLine

/-- What a session finds around it; programs are given by the locations of their files. -/
structure Host where
  tree : FileTree
  /-- The environment's permutation command. -/
  environment : Option String
  permutations : Location → Option (List String → String → Launch ByteArray)
  provers : Location → Option (ProverCall → Launch (Option ByteArray))
  verifiers : Location → Option (VerifierCall → Launch (Option ByteArray))
  scratch : String
  /-- Milliseconds that the scenario at a place of a scheme's table takes. -/
  elapsed : Scheme → Nat → Nat
  /-- Whether the clock can show the end of a time limit that starts now. -/
  shows : Timespan → Bool

namespace Host

def permutationProgram (host : Host) (path : String) (arguments : List String) :
    Program String ByteArray :=
  if arguments.any (·.contains '\x00') then .refused path false .nulByte
  else .atPath host.tree (fun l => (host.permutations l).map (· arguments)) path

def prover (host : Host) (path : String) : Prover := .atPath host.tree host.provers path

def verifier (host : Host) (path : String) : Verifier := .atPath host.tree host.verifiers path

/-- A program under a time limit. Once it has started, the caller asks the clock when the limit ends,
and crashes there if the clock cannot show that; it does not see the program end. -/
def timed (host : Host) (limit : Timespan) (p : Program ι ο) : Program ι ο :=
  if host.shows limit then p else p.unfinished

/-- What it comes to for the caller when a program under a time limit failed. -/
def settle (host : Host) (limit : Timespan) : Failure → Failure
  | .error (.timeout program given) =>
    if host.shows limit then .error (.timeout program given) else .crash .deadline
  | f => f

end Host

/-- `result` tells whether every scenario passed. -/
structure Session (σ : Type) where
  printed : List String
  result : Except Failure Bool
  tree : FileTree
  source : σ

namespace Session

variable {σ : Type} [RandomSource σ]

/-- A session that prints nothing more and changes no file. -/
def done (host : Host) (result : Except Failure Bool) (s : σ) : Session σ :=
  ⟨[], result, host.tree, s⟩

/-- A session that ends with an error here. -/
def fail (host : Host) (e : Error) (s : σ) : Session σ := done host (.error (.error e)) s

/-- Lines in front of those still to come. -/
def print (lines : List String) (session : Session σ) : Session σ :=
  { session with printed := lines ++ session.printed }

def stdout (session : Session σ) : String :=
  String.join (session.printed.map fun line => line ++ "\n")

/-- The diagnostics; of a crash only what it says. -/
def stderr (session : Session σ) : String :=
  match session.result with
  | .ok _ => ""
  | .error (.error e) => "error: " ++ e.message ++ "\n"
  | .error (.crash c) => c.message ++ "\n"

def exitCode (session : Session σ) : Nat :=
  match session.result with
  | .ok true => 0
  | .ok false => 1
  | .error (.error _) => 2
  | .error (.crash _) => 101

/-- The file, then the option, then the environment. -/
def configOf (host : Host) (arguments : Arguments) : Except Error Config :=
  let base : Except Error Config :=
    match arguments.config with
    | none => .ok Config.standard
    | some path => host.tree.readJson Config.ofNode path
  base.map fun c =>
    let c :=
      match arguments.permutationCommand with
      | none => c
      | some line => { c with permutationCommand := some (Text.words line) }
    c.withEnvironment host.environment

def privatePath (outDir name : String) : String :=
  Path.join outDir (name ++ "_private_input.json")

def publicPath (outDir name : String) : String := Path.join outDir (name ++ "_public_input.json")

/-- The tree is what the first failure, if there is one, leaves. -/
def writePair (tree : FileTree) (outDir name : String) (privateInput publicInput : Json) :
    Except Error Unit × FileTree :=
  match tree.makePath outDir with
  | (.error f, tree) => (.error (.file outDir f), tree)
  | (.ok (), tree) =>
    tree.writeEach [
      (privatePath outDir name, privateInput.pretty), (publicPath outDir name, publicInput.pretty)]

/-- Writes the two files and says so. -/
def finishPair (host : Host) (outDir name : String) (privateInput publicInput : Json) (s : σ) :
    Session σ :=
  match writePair host.tree outDir name privateInput publicInput with
  | (.error e, tree) => ⟨[], .error (.error e), tree, s⟩
  | (.ok (), tree) =>
    ⟨["Wrote " ++ privatePath outDir name, "Wrote " ++ publicPath outDir name], .ok true, tree, s⟩

/-- The permutation of a configuration, with its program under the time limit. -/
def permutationOf (host : Host) (config : Config) : Except Error Permutation :=
  config.permutation fun path arguments =>
    host.timed config.limit (host.permutationProgram path arguments)

def rescueInput (host : Host) (config : Config) (chainLength : Option Nat) (outDir : String)
    (s : σ) : Session σ :=
  match permutationOf host config with
  | .error e => fail host e s
  | .ok permute =>
    match ChainProof.generate chainLength permute s with
    | (.error f, s) => done host (.error (host.settle config.limit f)) s
    | (.ok p, s) =>
      finishPair host outDir Scheme.rescue.name p.privateInput (ProverInputs.rescueClaim p).toJson s

def ziggyKeys (host : Host) (config : Config) (privateKey : Option String) (message outDir : String)
    (s : σ) : Session σ :=
  match privateKey.mapM Seed.ofHex with
  | .error e => fail host e s
  | .ok seed =>
    match permutationOf host config with
    | .error e => fail host e s
    | .ok permute =>
      match KeyPair.derive seed permute s with
      | (.error e, s) => done host (.error (host.settle config.limit (.error e))) s
      | (.ok k, s) =>
        finishPair host outDir Scheme.ziggy.name k.privateInput
          (ProverInputs.ziggyClaim message k).toJson s

def withOptions (config : Config) (o : RunOptions) : Except Error Config := do
  let flavor ←
    match o.flavor with
    | none => .ok config.flavor
    | some text => Flavor.ofText text
  .ok { config with
    flavor := flavor
    buildDir := o.buildDir.getD config.buildDir
    timeoutSecs := o.timeoutSecs.getD config.timeoutSecs
    jobs := o.jobs.getD config.jobs
    seed := o.seed.or config.seed }

def heading (config : Config) : List String := [
  "=== STARK Harness ===",
  "Build: " ++ config.buildDir ++ " (" ++ config.flavor.name ++ ")",
  "Jobs: " ++ toString config.jobs ++ ", timeout: " ++ toString config.timeoutSecs ++ "s",
  ""]

/-- The line of a stage; without details only the first and the last stage have one. -/
def progressLine? (verbose : Bool) (p : Progress) : Option String :=
  let stage := "[" ++ p.scheme.name ++ "/" ++ p.scenario ++ "] " ++ p.stage.name
  if verbose then some (stage ++ " - " ++ p.detail ++ " (" ++ toString p.stage.percent ++ "%)")
  else if p.stage = .init ∨ p.stage = .asserted then some stage
  else none

def benchOf (host : Host) (config : Config) (permute : Permutation) (scheme : Scheme) : Bench where
  prover := host.timed config.limit (host.prover (config.proverPath scheme))
  verifier := host.timed config.limit (host.verifier (config.verifierPath scheme))
  permutation := permute
  limit := config.limit
  scratch := host.scratch

/-- The seed of the configuration, or one drawn. -/
def seedOf (config : Config) (s : σ) : Nat × σ :=
  match config.seed with
  | some n => (n, s)
  | none =>
    let (w, s) := RandomSource.word64 s
    (w.toNat, s)

/-- The whole table of a scheme. -/
def runSuite (host : Host) (config : Config) (scheme : Scheme) (s : σ) :
    Except Error Suite.Finished × σ :=
  match permutationOf host config with
  | .error e => (.error e, s)
  | .ok permute =>
    let (seed, s) := seedOf config s
    (Suite.run (benchOf host config permute scheme) seed (host.elapsed scheme)
      (Scenario.table scheme) (.inTurn _), s)

/-- Ends a run: prints the summaries and writes the report. -/
def conclude (host : Host) (o : RunOptions) (reports : List SuiteReport) (s : σ) : Session σ :=
  let lines := "" :: reports.map SuiteReport.summary
  let passed := reports.all SuiteReport.allPassed
  match o.report with
  | none => print lines (done host (.ok passed) s)
  | some path =>
    match host.tree.write path (Json.array (reports.map SuiteReport.toJson)).pretty with
    | .error f => print lines (fail host (.file path f) s)
    | .ok tree => ⟨lines, .ok passed, tree, s⟩

/-- Whether a trial asked the clock for the end of a time limit that it cannot show. Such a trial has
said all that it says until then, and the others are not kept from running. -/
def crashed (host : Host) (config : Config) (report : SuiteReport) : Bool :=
  !host.shows config.limit && report.timedOut

/-- One suite after the other; the first that cannot run, or crashes, ends the session. -/
def runSuites (host : Host) (config : Config) (verbose : Bool) (o : RunOptions)
    (reports : List SuiteReport) : List Scheme → σ → Session σ
  | [], s => conclude host o reports s
  | scheme :: rest, s =>
    match runSuite host config scheme s with
    | (.error e, s) => fail host e s
    | (.ok suite, s) =>
      print (suite.progress.flatten.filterMap (progressLine? verbose))
        (if crashed host config suite.report then done host (.error (.crash .deadline)) s
        else runSuites host config verbose o (reports ++ [suite.report]) rest s)

def schemesOf (text : String) : Except Error (List Scheme) :=
  if text = "all" then .ok Scheme.all
  else
    match Scheme.ofName? text with
    | some scheme => .ok [scheme]
    | none => .error (.invalidParameter (.schemeUnknown text))

def runAll (host : Host) (config : Config) (verbose : Bool) (o : RunOptions) (s : σ) : Session σ :=
  match withOptions config o with
  | .error e => fail host e s
  | .ok config =>
    print (heading config)
      (match schemesOf o.scheme with
      | .error e => fail host e s
      | .ok schemes => runSuites host config verbose o [] schemes s)

def run (host : Host) (arguments : Arguments) (s : σ) : Session σ :=
  match configOf host arguments with
  | .error e => fail host e s
  | .ok config =>
    match arguments.command with
    | .rescueInput chainLength outDir => rescueInput host config chainLength outDir s
    | .ziggyKeys privateKey message outDir => ziggyKeys host config privateKey message outDir s
    | .run options => runAll host config arguments.verbose options s

end Session
end ProofTrial.CommandLine
