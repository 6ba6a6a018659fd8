import ProofTrial.Field.Text
import ProofTrial.Json.Decode
import ProofTrial.Json.Printer
import ProofTrial.Program
import ProofTrial.Text.Blank

/-!
The one-way permutation from eight field elements to four, the hash chain over it, and
permutations served by an external program: the program gets one JSON object with the hex words
of the input and answers with one that holds those of the output.
-/
namespace ProofTrial

abbrev Permutation := Vector Felt 8 → Except Error Row

namespace Permutation

/-- Absorbs rows into a state one after the other. -/
def absorb (permute : Permutation) : Row → List Row → Except Error Row
  | state, [] => .ok state
  | state, row :: rows =>
    match permute (state ++ row) with
    | .error e => .error e
    | .ok state => absorb permute state rows

/-- The first row is the starting state. -/
def hashChain (permute : Permutation) : List Row → Except Error Row
  | [] => .error (.invalidParameter .hashChainEmpty)
  | row :: rows => absorb permute row rows

/-- Stands in where no program is configured. -/
def unconfigured : Permutation := fun _ => .error (.invalidParameter .permutationUnconfigured)

/-- What a program reads. -/
def request (input : Vector Felt 8) : String :=
  (Json.object [("input", Json.strings (input.toList.map Felt.hex))]).compact

def readResponseField (output : Option (List String)) (name : String) (x : Json.Node) :
    Except JsonFault (Option (List String)) :=
  match name with
  | "output" => Json.Node.once output (x.expectList Json.Node.expectString)
  | _ => x.skip.map fun _ => output

/-- The words of a program's answer. -/
def readResponse (stdout : ByteArray) : Except JsonFault (List String) :=
  Json.decodeBytes
    (Json.Node.expectRecord ["output"] readResponseField none Json.Node.required) stdout

/-- The output of a program that ended. -/
def ofEnded (path : String) (e : Ended ByteArray) : Except Error Row :=
  if e.success then
    match readResponse e.output with
    | .error f => .error (.json "permutation response" f)
    | .ok words => Row.ofHexWith .permutationOutputLength words
  else .error (.externalProgram path (.exited e.code (Text.trim e.diagnostics)))

def ofProgram (program : Program String ByteArray) (limit : Timespan) : Permutation := fun input =>
  match program.start limit (request input) with
  | .error e => .error e
  | .ok e => ofEnded program.path e

end Permutation
end ProofTrial
