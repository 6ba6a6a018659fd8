import ProofTrial.AnnotationLog
import ProofTrial.Json.Printer
import ProofTrial.Mutation.Basic
import ProofTrial.TextFile

/-!
The artifact that a prover leaves: the proof, its annotations and the public input it was made
for. Fields that are not known are kept and written back.
-/
namespace ProofTrial

structure Artifact where
  proofHex : String
  annotations : List String
  publicInput : Json
  extra : Json.Fields
  deriving DecidableEq, Repr

namespace Artifact

def fieldNames : List String := ["proof_hex", "annotations", "public_input"]

def toJson (a : Artifact) : Json :=
  .object (("proof_hex", .string a.proofHex) :: ("annotations", .strings a.annotations) ::
    ("public_input", a.publicInput) :: a.extra)

/-- The text of the file it is saved in. -/
def save (a : Artifact) : String := a.toJson.pretty

/-- Fields read so far. -/
structure Partial where
  proofHex : Option String
  annotations : Option (List String)
  publicInput : Option Json
  extra : Json.Fields

/-- Values inside the artifact have one level less to go. -/
def readField (p : Partial) (name : String) (x : Json.Node) : Except JsonFault Partial :=
  match name with
  | "proof_hex" =>
    (Json.Node.once p.proofHex x.expectString).map fun v => { p with proofHex := v }
  | "annotations" =>
    (Json.Node.once p.annotations (x.expectList Json.Node.expectString)).map fun v =>
      { p with annotations := v }
  | "public_input" =>
    (Json.Node.once p.publicInput (x.value (Json.maxDepth - 1))).map fun v =>
      { p with publicInput := v }
  | _ =>
    (x.value (Json.maxDepth - 1)).map fun v => { p with extra := Json.setField name v p.extra }

/-- A file without annotations has none. -/
def finish (p : Partial) : Except JsonFault Artifact := do
  let proof ← Json.Node.required p.proofHex
  let publicInput ← Json.Node.required p.publicInput
  .ok ⟨proof, p.annotations.getD [], publicInput, p.extra⟩

def ofNode (x : Json.Node) : Except JsonFault Artifact :=
  match x.expectObject readField ⟨none, none, none, []⟩ with
  | .error f => .error f
  | .ok p => finish p

/-- Reads the file and checks that it holds a proof. -/
def load (path : String) (content : Option ByteArray) : Except Error Artifact :=
  match TextFile.readJson ofNode path content with
  | .error e => .error e
  | .ok a =>
    if ProofHex.isWellFormed a.proofHex then .ok a
    else .error (.invalidParameter (.artifactProofMalformed path))

def annotationLog (a : Artifact) : String := AnnotationLog.ofList a.annotations

/-- Bytes of the proof; the empty proof has none. -/
def proofLength (a : Artifact) : Nat :=
  if a.proofHex = ProofHex.emptyProof then 0 else (a.proofHex.utf8ByteSize - 2) / 2

/-- `n / 1024` with one decimal place; a half goes to the even neighbour. -/
def kilobytes (n : Nat) : String :=
  let whole := n * 10 / 1024
  let rest := n * 10 % 1024
  let tenths := if 512 < rest ∨ (rest = 512 ∧ whole % 2 = 1) then whole + 1 else whole
  toString (tenths / 10) ++ "." ++ toString (tenths % 10)

def publicInputFields (a : Artifact) : Nat :=
  match a.publicInput with
  | .object fields => fields.length
  | _ => 0

def summary (a : Artifact) : String :=
  "Proof Artifact Summary:\n- Proof: " ++ toString a.proofLength ++ " bytes (" ++
    kilobytes a.proofLength ++ " KB)\n- Annotations: " ++ toString a.annotations.length ++
    " lines\n- Public input fields: " ++ toString a.publicInputFields ++
    "\n- Extra fields: " ++ toString a.extra.length

end Artifact
end ProofTrial
