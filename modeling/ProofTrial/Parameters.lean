import ProofTrial.Json.Decode

/-!
The parameter file and the configuration file of a prover, and their JSON forms.
-/
namespace ProofTrial

structure FriParameters where
  lastLayerDegreeBound : Nat
  queries : Nat
  stepList : List Nat
  proofOfWorkBits : Nat
  deriving DecidableEq, Repr

structure ProverParameters where
  logCosets : Nat
  zeroKnowledge : Bool
  fri : FriParameters
  deriving DecidableEq, Repr

structure ProverConfig where
  constraintPolynomialTaskSize : Nat
  deriving DecidableEq, Repr

namespace FriParameters

def toJson (p : FriParameters) : Json :=
  .object [
    ("last_layer_degree_bound", .integer p.lastLayerDegreeBound),
    ("n_queries", .integer p.queries),
    ("fri_step_list", .array (p.stepList.map fun n : Nat => .integer n)),
    ("proof_of_work_bits", .integer p.proofOfWorkBits)]

/-- Fields read so far. -/
structure Partial where
  lastLayerDegreeBound : Option Nat
  queries : Option Nat
  stepList : Option (List Nat)
  proofOfWorkBits : Option Nat

def readField (p : Partial) (name : String) (x : Json.Node) : Except JsonFault Partial :=
  match name with
  | "last_layer_degree_bound" =>
    (Json.Node.once p.lastLayerDegreeBound (x.expectNat 32)).map fun v =>
      { p with lastLayerDegreeBound := v }
  | "n_queries" => (Json.Node.once p.queries (x.expectNat 32)).map fun v => { p with queries := v }
  | "fri_step_list" =>
    (Json.Node.once p.stepList (x.expectList (·.expectNat 32))).map fun v =>
      { p with stepList := v }
  | "proof_of_work_bits" =>
    (Json.Node.once p.proofOfWorkBits (x.expectNat 32)).map fun v => { p with proofOfWorkBits := v }
  | _ => x.skip.map fun _ => p

def finish (p : Partial) : Except JsonFault FriParameters := do
  let bound ← Json.Node.required p.lastLayerDegreeBound
  let queries ← Json.Node.required p.queries
  let steps ← Json.Node.required p.stepList
  let bits ← Json.Node.required p.proofOfWorkBits
  .ok ⟨bound, queries, steps, bits⟩

def ofNode : Json.Node → Except JsonFault FriParameters :=
  Json.Node.expectRecord
    ["last_layer_degree_bound", "n_queries", "fri_step_list", "proof_of_work_bits"]
    readField ⟨none, none, none, none⟩ finish

end FriParameters

namespace ProverParameters

def toJson (p : ProverParameters) : Json :=
  .object [("stark", .object [
    ("log_n_cosets", .integer p.logCosets),
    ("enable_zero_knowledge", .bool p.zeroKnowledge),
    ("fri", p.fri.toJson)])]

/-- Fields read so far. -/
structure Partial where
  logCosets : Option Nat
  zeroKnowledge : Option Bool
  fri : Option FriParameters

def readField (p : Partial) (name : String) (x : Json.Node) : Except JsonFault Partial :=
  match name with
  | "log_n_cosets" =>
    (Json.Node.once p.logCosets (x.expectNat 32)).map fun v => { p with logCosets := v }
  | "enable_zero_knowledge" =>
    (Json.Node.once p.zeroKnowledge x.expectBool).map fun v => { p with zeroKnowledge := v }
  | "fri" => (Json.Node.once p.fri (FriParameters.ofNode x)).map fun v => { p with fri := v }
  | _ => x.skip.map fun _ => p

def finish (p : Partial) : Except JsonFault ProverParameters := do
  let cosets ← Json.Node.required p.logCosets
  let zeroKnowledge ← Json.Node.required p.zeroKnowledge
  let fri ← Json.Node.required p.fri
  .ok ⟨cosets, zeroKnowledge, fri⟩

def ofStarkNode : Json.Node → Except JsonFault ProverParameters :=
  Json.Node.expectRecord ["log_n_cosets", "enable_zero_knowledge", "fri"]
    readField ⟨none, none, none⟩ finish

def readTopField (p : Option ProverParameters) (name : String) (x : Json.Node) :
    Except JsonFault (Option ProverParameters) :=
  match name with
  | "stark" => Json.Node.once p (ofStarkNode x)
  | _ => x.skip.map fun _ => p

def ofNode : Json.Node → Except JsonFault ProverParameters :=
  Json.Node.expectRecord ["stark"] readTopField none Json.Node.required

/-- Folding rounds after the leading zero step. -/
def friRounds (p : ProverParameters) : Nat := p.fri.stepList.length - 1

end ProverParameters

def ProverConfig.toJson (c : ProverConfig) : Json :=
  .object [("constraint_polynomial_task_size", .integer c.constraintPolynomialTaskSize)]

end ProofTrial
