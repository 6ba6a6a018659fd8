import ProofTrial.Text.Quoted

/-!
Options of a command line, as `--name value` or `--name=value`; switches have a name only. A reader
says which names it knows and keeps what has been read, in a state of its own.
-/
namespace ProofTrial.CommandLine

/-- Arguments that cannot be understood. -/
inductive UsageFault where
  | unexpected (argument : String)
  | repeated (option : String)
  | valueMissing (option : String)
  | notANumber (option text : String)
  | commandMissing
  deriving DecidableEq, Repr

def UsageFault.message : UsageFault → String
  | unexpected argument => "unexpected argument " ++ Text.quoted argument
  | repeated option => "--" ++ option ++ " cannot be used more than once"
  | valueMissing option => "--" ++ option ++ " needs a value"
  | notANumber option text => "--" ++ option ++ " needs a number, got " ++ Text.quoted text
  | commandMissing => "one of rescue-input, ziggy-keys and run is needed"

/-- The name after two dashes, and the value after an equals sign. -/
def splitOption (argument : String) : Option (String × Option String) :=
  match argument.toList with
  | '-' :: '-' :: cs =>
    let name := cs.takeWhile (· != '=')
    match cs.dropWhile (· != '=') with
    | [] => some (String.ofList name, none)
    | _ :: value => some (String.ofList name, some (String.ofList value))
  | _ => none

/-- A dash alone is a value. -/
def looksLikeOption (argument : String) : Bool := argument.startsWith "-" && argument != "-"

inductive OptionKind where
  | valued
  | switch
  deriving DecidableEq, Repr

/-- How options are read into a state: which names it knows, what an option adds to it (a switch has
an empty value), and what an argument that is no option does. -/
structure OptionReader (π : Type) where
  kind? : π → String → Option OptionKind
  add : π → String → String → Except UsageFault π
  other : π → String → Except UsageFault π

/-- Two dashes alone end the options, and nothing may stand after them. -/
def OptionReader.read (r : OptionReader π) (p : π) : List String → Except UsageFault π
  | [] => .ok p
  | ["--"] => .ok p
  | "--" :: a :: _ => .error (.unexpected a)
  | a :: rest =>
    match splitOption a with
    | none => do r.read (← r.other p a) rest
    | some (name, value?) =>
      match r.kind? p name, value? with
      | some .valued, some value => do r.read (← r.add p name value) rest
      | some .valued, none =>
        match rest with
        | [] => .error (.valueMissing name)
        | value :: rest =>
          if looksLikeOption value then .error (.valueMissing name)
          else do r.read (← r.add p name value) rest
      | some .switch, none => do r.read (← r.add p name "") rest
      | _, _ => .error (.unexpected a)

/-- Adds an option to those read, once and with a value where it names a file. -/
def addOnce (isPath : String → Bool) (options : List (String × String)) (option value : String) :
    Except UsageFault (List (String × String)) :=
  if (options.lookup option).isSome then .error (.repeated option)
  else if value.isEmpty && isPath option then .error (.valueMissing option)
  else .ok ((option, value) :: options)

end ProofTrial.CommandLine
