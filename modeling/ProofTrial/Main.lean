import ProofTrial.CommandLine.Session
import ProofTrial.StandIn

/-!
The command line. Files are read and written; programs are not started: one whose file exists is
stood in for, and a dry run shows what a real one would be given.
-/
namespace ProofTrial.CommandLine

inductive Entry where
  | directory
  | file (bytes : ByteArray)

def entry? (path : String) : IO (Option Entry) := do
  try
    let p ← IO.FS.realPath path
    if ← p.isDir then return some .directory
    return some (.file (← IO.FS.readBinFile p))
  catch _ => return none

/-- Adds to a tree what is found along a path. -/
def explore (tree : FileTree) (path : String) : IO FileTree := do
  let mut tree := tree
  let mut location := Location.start path
  let mut text := if Path.isAbsolute path then "/" else ""
  for name in Path.names path do
    location := location.step name
    text := Path.join text name
    match ← entry? text with
    | some .directory => tree := { tree with directories := location :: tree.directories }
    | some (.file bytes) =>
      if !tree.isFile location then tree := { tree with files := (location, bytes) :: tree.files }
    | none => return tree
  return tree

/-- Paths that a command writes to. -/
def targets : Command → List String
  | .rescueInput _ outDir =>
    [outDir, Session.privatePath outDir Scheme.rescue.name,
      Session.publicPath outDir Scheme.rescue.name]
  | .ziggyKeys _ _ outDir =>
    [outDir, Session.privatePath outDir Scheme.ziggy.name,
      Session.publicPath outDir Scheme.ziggy.name]
  | .run options => options.report.toList

/-- The programs that a command may use. -/
def programPaths (config : Config) : Command → List String
  | .run options =>
    match Session.withOptions config options with
    | .error _ => []
    | .ok config => Scheme.all.flatMap fun s => [config.proverPath s, config.verifierPath s]
  | _ => []

/-- Seconds that the clock can count. -/
def clockSeconds : Nat := 2 ^ 63

/-- A host where the stand-in runs from every file of a tree. The clock stands at `now`. -/
def hostOf (now : Timespan) (tree : FileTree) (environment : Option String) : Host :=
  let installed {α : Type} (run : α) (l : Location) : Option α :=
    if tree.isFile l then some run else none
  { tree, environment
    permutations := installed fun _ => StandIn.runPermutation
    provers := installed StandIn.runProver
    verifiers := installed StandIn.runVerifier
    scratch := "scratch"
    elapsed := fun _ _ => 0
    shows := fun limit =>
      now.nanoseconds + limit.nanoseconds < (Timespan.ofSeconds clockSeconds).nanoseconds }

def hostFor (arguments : Arguments) : IO Host := do
  let environment ← IO.getEnv Config.permutationVariable
  let now := Timespan.ofMilliseconds (← IO.monoMsNow)
  let tree ← (arguments.config.toList ++ targets arguments.command).foldlM explore .empty
  match Session.configOf (hostOf now tree environment) arguments with
  | .error _ => return hostOf now tree environment
  | .ok config =>
    let programs :=
      (config.permutationCommand.getD []).take 1 ++ programPaths config arguments.command
    return hostOf now (← programs.foldlM explore tree) environment

def pathOf (l : Location) : String := l.foldl Path.join ""

/-- Makes the directories and writes the files that a session has changed. -/
def store (before after : FileTree) : IO Unit := do
  for l in after.directories do
    if !before.isDirectory l then IO.FS.createDirAll (pathOf l)
  for (l, bytes) in after.files do
    if before.files.lookup l != some bytes then IO.FS.writeBinFile (pathOf l) bytes

def randomSource : IO ChaCha := do
  let bytes ← IO.getRandomBytes 32
  return .ofKey (Vector.ofFn fun i => bytes.data.getD i.val 0)

def runSession (arguments : Arguments) : IO UInt32 := do
  let host ← hostFor arguments
  let session := Session.run host arguments (← randomSource)
  store host.tree session.tree
  IO.print session.stdout
  IO.eprint session.stderr
  return UInt32.ofNat session.exitCode

end ProofTrial.CommandLine

open ProofTrial.CommandLine in
def main (arguments : List String) : IO UInt32 :=
  match Arguments.parse arguments with
  | .ok arguments => runSession arguments
  | .error fault => do
    IO.eprintln ("error: " ++ fault.message)
    return 2
