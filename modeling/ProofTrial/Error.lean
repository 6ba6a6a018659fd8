import ProofTrial.Text.Hex
import ProofTrial.Text.Quoted
import ProofTrial.Text.Timespan

/-!
Why a trial or a command fails. Each kind of error holds its cause; `Error.message` gives the
wording and `Error.kind` the label that reports use.
-/
namespace ProofTrial

/-- Why a text is no private key. -/
inductive KeyTextFault where
  | oddLength
  | wrongLength
  | foreign (c : Char) (position : Nat)
  deriving DecidableEq, Repr

def KeyTextFault.message : KeyTextFault → String
  | oddLength => "Odd number of digits"
  | wrongLength => "Invalid string length"
  | foreign c position =>
    "Invalid character " ++ Text.quotedChar c ++ " at position " ++ toString position

/-- Inputs that are refused. -/
inductive ParameterFault where
  | word (text : String) (fault : Hex.WordFault)
  | notBelowPrime (text : String)
  | keyLength (bytes : Nat)
  | keyText (text : String) (fault : KeyTextFault)
  | hashesPerInstanceZero
  | chainLength (hashesPerInstance chainLength : Nat)
  | airHeightZero
  | traceOverflow (chainLength : Nat)
  | traceNotPowerOfTwo (traceLength : Nat)
  | queriesZero
  | paddedTraceOverflow (traceLength : Nat)
  | hashChainEmpty
  | permutationOutputLength (count : Nat)
  | permutationUnconfigured
  | permutationCommandEmpty
  | rowLength (count : Nat)
  | claimVectorLength (count : Nat)
  | messageEmpty
  | proofMalformed (bytes : Nat)
  | artifactProofMalformed (path : String)
  | flavorUnknown (text : String)
  | schemeUnknown (text : String)
  | flagMissing (flag : String)
  | modeMissing
  | reported (text : String)
  deriving DecidableEq, Repr

def ParameterFault.message : ParameterFault → String
  | word text .unmarked => Text.quoted text ++ " lacks a 0x prefix"
  | word text (.digits fault) => Text.quoted text ++ " is not a hex word: " ++ fault.message
  | notBelowPrime text => text ++ " is not below the field prime"
  | keyLength bytes => "private key must be 1 to 64 hex digits, got " ++ toString bytes
  | keyText text fault => "private key " ++ Text.quoted text ++ " is not hex: " ++ fault.message
  | hashesPerInstanceZero => "hashes_per_instance must be positive"
  | chainLength h c =>
    "chain_length must be a positive multiple of " ++ toString h ++ ", got " ++ toString c
  | airHeightZero => "air_height must be positive"
  | traceOverflow c => "trace for chain_length " ++ toString c ++ " overflows"
  | traceNotPowerOfTwo t => "trace length " ++ toString t ++ " is not a power of two"
  | queriesZero => "n_queries must be positive"
  | paddedTraceOverflow t => "padded trace of length " ++ toString t ++ " overflows"
  | hashChainEmpty => "hash chain needs at least one row"
  | permutationOutputLength n => "permutation returned " ++ toString n ++ " elements, expected 4"
  | permutationUnconfigured => "no permutation command configured (set permutation_command)"
  | permutationCommandEmpty => "permutation_command is empty"
  | rowLength n => "expected 4 words per row, got " ++ toString n
  | claimVectorLength n => "claim vector has " ++ toString n ++ " words, expected 4"
  | messageEmpty => "cannot corrupt an empty message"
  | proofMalformed n => "proof hex is malformed (length " ++ toString n ++ ")"
  | artifactProofMalformed path => path ++ " holds a malformed proof_hex"
  | flavorUnknown text =>
    "unknown flavor " ++ Text.quoted text ++ "; use Release, RelWithDebInfo or Debug"
  | schemeUnknown text => "unknown scheme " ++ Text.quoted text ++ "; use rescue, ziggy or all"
  | flagMissing flag => "--" ++ flag ++ " is required"
  | modeMissing => "pass --out_file to prove or --in_file to verify"
  | reported text => text

/-- Defects of the library itself. -/
inductive InternalFault where
  | samplerExhausted (found wanted maxRounds : Nat)
  | codePoint (code : Nat)
  | reported (text : String)
  deriving DecidableEq, Repr

def InternalFault.message : InternalFault → String
  | samplerExhausted found wanted maxRounds =>
    "sampler accepted " ++ toString found ++ " of " ++ toString wanted ++ " elements within " ++
      toString maxRounds ++ " rounds"
  | codePoint code => "bit flip produced invalid code point " ++ Hex.word code
  | reported text => text

/-- How a program ended, absent when a signal stopped it. -/
abbrev ExitCode := Option Int

def ExitCode.text : ExitCode → String
  | none => "None"
  | some n => "Some(" ++ toString n ++ ")"

/-- Failures of an external program. -/
inductive ProgramFault where
  | notStarted (reason : String)
  | notFound
  | exited (code : ExitCode) (stderr : String)
  | proverExited (code : ExitCode)
  | reported (text : String)
  deriving DecidableEq, Repr

def ProgramFault.message : ProgramFault → String
  | notStarted reason => "failed to spawn: " ++ reason
  | notFound => "executable not found"
  | exited code stderr => "exited with status " ++ code.text ++ ": " ++ stderr
  | proverExited code => "prover exited with status " ++ code.text
  | reported text => text

/-- A verifier whose exit code and output do not fit what was expected. -/
inductive OutcomeFault where
  | notAccepted (code : ExitCode) (marker : String)
  | notRejected (code : ExitCode) (marker : String)
  | reported (text : String)
  deriving DecidableEq, Repr

def OutcomeFault.message : OutcomeFault → String
  | notAccepted code marker =>
    "expected acceptance, verifier exited with " ++ code.text ++ " without " ++ Text.quoted marker
  | notRejected code marker =>
    "expected rejection, verifier exited with " ++ code.text ++ " without reporting " ++
      Text.quoted marker
  | reported text => text

/-- Failures of the file system, also when a program is to be started. -/
inductive FileFault where
  | absent
  | notText
  | inTheWay
  | notDirectory
  | isDirectory
  | denied
  | nameTooLong
  | nulByte
  | reported (text : String)
  deriving DecidableEq, Repr

def FileFault.message : FileFault → String
  | absent => "No such file or directory (os error 2)"
  | notText => "stream did not contain valid UTF-8"
  | inTheWay => "File exists (os error 17)"
  | notDirectory => "Not a directory (os error 20)"
  | isDirectory => "Is a directory (os error 21)"
  | denied => "Permission denied (os error 13)"
  | nameTooLong => "File name too long (os error 36)"
  | nulByte => "nul byte found in provided data"
  | reported text => text

/-- Why a text does not read as the JSON that is wanted: it breaks the grammar, it ends too
early, or it holds a value of another shape. -/
inductive JsonFault where
  | syntaxError
  | eof
  | data
  deriving DecidableEq, Repr

def JsonFault.category : JsonFault → String
  | syntaxError => "syntax"
  | eof => "eof"
  | data => "data"

/-- Schemes and operators on proofs are given by their names. -/
inductive Error where
  | invalidParameter (fault : ParameterFault)
  | externalProgram (program : String) (fault : ProgramFault)
  | timeout (program : String) (limit : Timespan)
  | unexpectedRejection (scheme : String) (code : ExitCode)
  | annotationMismatch (line : Nat)
  | mutationInvariant (operator : String) (output : String)
  | outcomeMismatch (scheme : String) (fault : OutcomeFault)
  | internal (fault : InternalFault)
  | file (path : String) (fault : FileFault)
  | json (context : String) (fault : JsonFault)
  deriving DecidableEq, Repr

namespace Error

/-- The wording; of malformed JSON only where it was found. -/
def message : Error → String
  | invalidParameter fault => "invalid parameter: " ++ fault.message
  | externalProgram program fault =>
    "external process `" ++ program ++ "` failed: " ++ fault.message
  | timeout program limit => "external process `" ++ program ++ "` timed out after " ++ limit.text
  | unexpectedRejection scheme code =>
    scheme ++ " verifier unexpectedly rejected an honest proof (exit code " ++ code.text ++ ")"
  | annotationMismatch line =>
    "prover and verifier annotation logs differ at line " ++ toString line
  | mutationInvariant operator output =>
    "mutation `" ++ operator ++ "` produced malformed proof hex `" ++ output ++ "`"
  | outcomeMismatch scheme fault => scheme ++ " outcome mismatch: " ++ fault.message
  | internal fault => "internal defect: " ++ fault.message
  | file path fault => "I/O error on " ++ path ++ ": " ++ fault.message
  | json context _ => "malformed JSON in " ++ context

def kind : Error → String
  | invalidParameter _ => "invalid_parameter"
  | externalProgram .. => "external_process"
  | timeout .. => "timeout"
  | unexpectedRejection .. => "unexpected_rejection"
  | annotationMismatch _ => "annotation_mismatch"
  | mutationInvariant .. => "mutation_invariant"
  | outcomeMismatch .. => "outcome_mismatch"
  | internal _ => "internal"
  | file .. => "io"
  | json .. => "json"

/-- Whether the surroundings failed and not the proving system. -/
def isInfrastructure : Error → Bool
  | externalProgram .. | timeout .. | file .. => true
  | _ => false

end Error
end ProofTrial
