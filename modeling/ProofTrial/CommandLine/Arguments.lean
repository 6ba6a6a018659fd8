import ProofTrial.CommandLine.Options

/-!
The arguments of the command line. Three options may stand anywhere, the others belong to a command
and follow it. An option may be given once on each side of the command, and what follows the command
counts.
-/
namespace ProofTrial.CommandLine

structure RunOptions where
  scheme : String
  flavor : Option String
  buildDir : Option String
  timeoutSecs : Option Nat
  jobs : Option Nat
  seed : Option Nat
  report : Option String
  deriving DecidableEq, Repr

inductive Command where
  | rescueInput (chainLength : Option Nat) (outDir : String)
  | ziggyKeys (privateKey : Option String) (message outDir : String)
  | run (options : RunOptions)
  deriving DecidableEq, Repr

structure Arguments where
  config : Option String
  permutationCommand : Option String
  verbose : Bool
  command : Command
  deriving DecidableEq, Repr

/-- Options of every command. -/
def sharedOptions : List String := ["config", "permutation-cmd"]

/-- Options of a command, nothing for a word that is none. -/
def optionsOf (command : String) : Option (List String) :=
  match command with
  | "rescue-input" => some ["chain_length", "out-dir"]
  | "ziggy-keys" => some ["private_key", "message", "out-dir"]
  | "run" => some ["scheme", "flavor", "build-dir", "timeout-secs", "jobs", "seed", "report"]
  | _ => none

/-- Options that name a file or a directory. -/
def pathOptions : List String := ["config", "out-dir", "build-dir", "report"]

/-- What has been understood so far: the command, the options in front of it, and those on the
side that is being read. -/
structure Parsed where
  command : Option String
  before : List (String × String)
  options : List (String × String)

def kind? (p : Parsed) (option : String) : Option OptionKind :=
  if option = "verbose" then some .switch
  else if sharedOptions.contains option ||
      ((p.command.bind optionsOf).getD []).contains option then some .valued
  else none

def addOption (p : Parsed) (option value : String) : Except UsageFault Parsed :=
  (addOnce pathOptions.contains p.options option value).map fun os => { p with options := os }

/-- The short form of a switch, or the command. -/
def addWord (p : Parsed) (word : String) : Except UsageFault Parsed :=
  if word = "-v" then addOption p "verbose" ""
  else if p.command.isNone ∧ (optionsOf word).isSome then .ok ⟨some word, p.options, []⟩
  else .error (.unexpected word)

def reader : OptionReader Parsed := ⟨kind?, addOption, addWord⟩

/-- Decimal digits below 2 ^ 64, with or without a plus sign. -/
def number? (text : String) : Option Nat :=
  let cs := match text.toList with
    | '+' :: r => r
    | cs => cs
  let n := cs.foldl (fun n c => 10 * n + (c.toNat - 48)) 0
  if !cs.isEmpty && cs.all Char.isDigit && n < 2 ^ 64 then some n else none

def text? (p : Parsed) (option : String) : Option String :=
  (p.options.lookup option).or (p.before.lookup option)

def optionalNumber (p : Parsed) (option : String) : Except UsageFault (Option Nat) :=
  match text? p option with
  | none => .ok none
  | some text =>
    match number? text with
    | some n => .ok (some n)
    | none => .error (.notANumber option text)

/-- The message of a key file when none is given. -/
def defaultMessage : String := "Hello World!"

def commandOf (p : Parsed) : Except UsageFault Command :=
  match p.command with
  | some "rescue-input" => do
    let n ← optionalNumber p "chain_length"
    .ok (.rescueInput n ((text? p "out-dir").getD "."))
  | some "ziggy-keys" =>
    .ok (.ziggyKeys (text? p "private_key") ((text? p "message").getD defaultMessage)
      ((text? p "out-dir").getD "."))
  | some "run" => do
    let timeoutSecs ← optionalNumber p "timeout-secs"
    let jobs ← optionalNumber p "jobs"
    let seed ← optionalNumber p "seed"
    .ok (.run {
      scheme := (text? p "scheme").getD "all"
      flavor := text? p "flavor"
      buildDir := text? p "build-dir"
      timeoutSecs := timeoutSecs
      jobs := jobs
      seed := seed
      report := text? p "report" })
  | _ => .error .commandMissing

def Arguments.parse (arguments : List String) : Except UsageFault Arguments := do
  let p ← reader.read ⟨none, [], []⟩ arguments
  let command ← commandOf p
  .ok ⟨text? p "config", text? p "permutation-cmd", (text? p "verbose").isSome, command⟩

end ProofTrial.CommandLine
