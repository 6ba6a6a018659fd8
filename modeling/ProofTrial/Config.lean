import ProofTrial.Path
import ProofTrial.TextFile
import ProofTrial.Text.Blank
import ProofTrial.Trial.Basic

/-!
The configuration of a run: where the programs are, how long they may take, and which program
serves the permutation. Every field of the file may be missing.
-/
namespace ProofTrial

/-- How the programs were built. -/
inductive Flavor where
  | release
  | relWithDebInfo
  | debug
  deriving DecidableEq, Repr

namespace Flavor

def all : List Flavor := [release, relWithDebInfo, debug]

def name : Flavor → String
  | release => "Release"
  | relWithDebInfo => "RelWithDebInfo"
  | debug => "Debug"

def find? (text : String) : Option Flavor := all.find? (·.name == text)

def ofText (text : String) : Except Error Flavor :=
  match find? text with
  | some f => .ok f
  | none => .error (.invalidParameter (.flavorUnknown text))

def ofName (text : String) : Except JsonFault Flavor :=
  match find? text with
  | some f => .ok f
  | none => .error .data

/-- A name, or an object whose one field has that name and holds nothing. What is neither a
string nor an object is not looked at any further. -/
def ofNode : Json.Node → Except JsonFault Flavor
  | .string s => s.bind ofName
  | .object [] none => .error .syntaxError
  | .object [] (some b) => .error b.reading
  | .object ((name, x) :: rest) fault => do
    let flavor ← name.bind ofName
    match x with
    | .null =>
      match rest, fault with
      | [], none => .ok flavor
      | [], some b => .error b.reading
      | _ :: _, _ => .error .syntaxError
    | x => .error x.mismatch
  | .unnamed x => .error x.mismatch
  | .broken b => .error b.reading
  | _ => .error .syntaxError

end Flavor

/-- Paths given in place of those in the build directory. -/
structure ProgramPaths where
  prover : Option String
  verifier : Option String
  deriving DecidableEq, Repr

structure Config where
  buildDir : String
  flavor : Flavor
  timeoutSecs : Nat
  jobs : Nat
  /-- The master seed; one is drawn when it is missing. -/
  seed : Option Nat
  permutationCommand : Option (List String)
  /-- By name of the scheme, in order. -/
  programs : List (String × ProgramPaths)
  deriving DecidableEq, Repr

namespace ProgramPaths

def optionText : Option String → Json
  | none => .null
  | some text => .string text

def toJson (p : ProgramPaths) : Json :=
  .object [("prover", optionText p.prover), ("verifier", optionText p.verifier)]

abbrev Partial := Option (Option String) × Option (Option String)

def readField (p : Partial) (name : String) (x : Json.Node) : Except JsonFault Partial :=
  match name with
  | "prover" =>
    (Json.Node.once p.1 (x.expectOption Json.Node.expectString)).map fun v => (v, p.2)
  | "verifier" =>
    (Json.Node.once p.2 (x.expectOption Json.Node.expectString)).map fun v => (p.1, v)
  | _ => x.skip.map fun _ => p

def ofNode : Json.Node → Except JsonFault ProgramPaths :=
  Json.Node.expectRecord ["prover", "verifier"] readField (none, none)
    fun p => .ok ⟨p.1.getD none, p.2.getD none⟩

end ProgramPaths

namespace Config

def defaultTimeoutSecs : Nat := 600

def standard : Config := ⟨"build", .release, defaultTimeoutSecs, 1, none, none, []⟩

def optionNat : Option Nat → Json
  | none => .null
  | some n => .integer n

def toJson (c : Config) : Json :=
  .object [
    ("build_dir", .string c.buildDir),
    ("flavor", .string c.flavor.name),
    ("timeout_secs", .integer c.timeoutSecs),
    ("jobs", .integer c.jobs),
    ("seed", optionNat c.seed),
    ("permutation_command", (c.permutationCommand.map Json.strings).getD .null),
    ("binaries", .object (c.programs.map fun (name, p) => (name, p.toJson)))]

/-- Fields read so far. -/
structure Partial where
  buildDir : Option String
  flavor : Option Flavor
  timeoutSecs : Option Nat
  jobs : Option Nat
  seed : Option (Option Nat)
  permutationCommand : Option (Option (List String))
  programs : Option (List (String × ProgramPaths))

/-- Sets the paths of a scheme at their place in the order of names. -/
def setPrograms (name : String) (p : ProgramPaths) :
    List (String × ProgramPaths) → List (String × ProgramPaths)
  | [] => [(name, p)]
  | (n, q) :: r =>
    if name < n then (name, p) :: (n, q) :: r
    else if name = n then (name, p) :: r
    else (n, q) :: setPrograms name p r

def readPrograms : Json.Node → Except JsonFault (List (String × ProgramPaths)) :=
  Json.Node.expectObject
    (fun ps name x => (ProgramPaths.ofNode x).map fun p => setPrograms name p ps) []

def readField (p : Partial) (name : String) (x : Json.Node) : Except JsonFault Partial :=
  match name with
  | "build_dir" =>
    (Json.Node.once p.buildDir x.expectString).map fun v => { p with buildDir := v }
  | "flavor" => (Json.Node.once p.flavor (Flavor.ofNode x)).map fun v => { p with flavor := v }
  | "timeout_secs" =>
    (Json.Node.once p.timeoutSecs (x.expectNat 64)).map fun v => { p with timeoutSecs := v }
  | "jobs" => (Json.Node.once p.jobs (x.expectNat 64)).map fun v => { p with jobs := v }
  | "seed" =>
    (Json.Node.once p.seed (x.expectOption (·.expectNat 64))).map fun v => { p with seed := v }
  | "permutation_command" =>
    (Json.Node.once p.permutationCommand
      (x.expectOption (·.expectList Json.Node.expectString))).map fun v =>
        { p with permutationCommand := v }
  | "binaries" => (Json.Node.once p.programs (readPrograms x)).map fun v => { p with programs := v }
  | _ => x.skip.map fun _ => p

def fieldNames : List String :=
  ["build_dir", "flavor", "timeout_secs", "jobs", "seed", "permutation_command", "binaries"]

/-- What a field is when it is missing is what `standard` has. -/
def finish (p : Partial) : Config where
  buildDir := p.buildDir.getD standard.buildDir
  flavor := p.flavor.getD standard.flavor
  timeoutSecs := p.timeoutSecs.getD standard.timeoutSecs
  jobs := p.jobs.getD standard.jobs
  seed := p.seed.getD standard.seed
  permutationCommand := p.permutationCommand.getD standard.permutationCommand
  programs := p.programs.getD standard.programs

def ofNode : Json.Node → Except JsonFault Config :=
  Json.Node.expectRecord fieldNames readField ⟨none, none, none, none, none, none, none⟩
    fun p => .ok (finish p)

def load (path : String) (content : Option ByteArray) : Except Error Config :=
  TextFile.readJson ofNode path content

def limit (c : Config) : Timespan := .ofSeconds c.timeoutSecs

/-- Where the build leaves the programs of a scheme. -/
def programDir (c : Config) (scheme : Scheme) : String :=
  Path.join (Path.join (Path.join c.buildDir c.flavor.name) "src/starkware/main") scheme.name

def pathsOf (c : Config) (scheme : Scheme) : ProgramPaths :=
  (c.programs.lookup scheme.name).getD ⟨none, none⟩

def proverPath (c : Config) (scheme : Scheme) : String :=
  ((c.pathsOf scheme).prover).getD (Path.join (c.programDir scheme) scheme.proverName)

def verifierPath (c : Config) (scheme : Scheme) : String :=
  ((c.pathsOf scheme).verifier).getD (Path.join (c.programDir scheme) scheme.verifierName)

/-- The environment variable that may hold the permutation command. -/
def permutationVariable : String := "STARK_HARNESS_PERMUTATION_CMD"

/-- Takes the command from the environment when there is none and the variable holds one. -/
def withEnvironment (c : Config) (value : Option String) : Config :=
  match c.permutationCommand, value with
  | none, some line =>
    match Text.words line with
    | [] => c
    | command => { c with permutationCommand := some command }
  | _, _ => c

/-- The permutation of a command, with programs as `find` gives them. -/
def permutation (c : Config) (find : String → List String → Program String ByteArray) :
    Except Error Permutation :=
  match c.permutationCommand with
  | none => .ok Permutation.unconfigured
  | some [] => .error (.invalidParameter .permutationCommandEmpty)
  | some (program :: arguments) => .ok (Permutation.ofProgram (find program arguments) c.limit)

end Config
end ProofTrial
