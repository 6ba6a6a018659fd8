import ProofTrial.Golden
import ProofTrial.Scenario

/-!
What a prover is given: parameters, the public claim, the private input and a configuration.
`prepare` draws or takes the witness or the keys first, and then the number of queries.
-/
namespace ProofTrial

structure ProverInputs where
  parameters : ProverParameters
  publicInput : Json
  privateInput : Json
  config : ProverConfig
  deriving DecidableEq, Repr

namespace ProverInputs

def maxQueries : Nat := 30

/-- Fewest queries of a signature proof. -/
def ziggyMinQueries : Nat := 20

/-- Trace length of the signature statement. -/
def ziggyTraceLength : Nat := 16

/-- The message that trials sign. -/
def scenarioMessage : String := "test message"

variable {σ : Type} [RandomSource σ]

/-- A number of queries from `least` to the greatest one. -/
def drawQueries (least : Nat) (h : 0 < maxQueries + 1 - least) (s : σ) : Nat × σ :=
  let (i, s) := Random.below32 (maxQueries + 1 - least) h s
  (least + i.val, s)

def rescueClaim (p : ChainProof) : RescueClaim :=
  ⟨p.output.toHex, p.witness.chainLength, []⟩

def rescueParameters (p : ChainProof) (queries : Nat) (zeroKnowledge : Bool) :
    Except Error ProverParameters :=
  Schedule.ofChainLength p.witness.chainLength Witness.airHeight Witness.hashesPerInstance queries
    zeroKnowledge

def chainOf (source : InputSource) (permute : Permutation) (s : σ) : Except Error ChainProof × σ :=
  match source with
  | .golden => (Golden.chain, s)
  | .random => ChainProof.ofDrawn permute s

def prepareRescue (source : InputSource) (zeroKnowledge : Bool) (permute : Permutation) (s : σ) :
    Except Error ProverInputs × σ :=
  match chainOf source permute s with
  | (.error e, s) => (.error e, s)
  | (.ok p, s) =>
    let (queries, s) := drawQueries 1 (by decide) s
    ((rescueParameters p queries zeroKnowledge).map fun parameters =>
      ⟨parameters, (rescueClaim p).toValue, p.privateInput, .standard⟩, s)

def ziggyClaim (message : String) (k : KeyPair) : ZiggyClaim := ⟨message, k.publicKey.toHex, []⟩

def keysOf (source : InputSource) (permute : Permutation) (s : σ) : Except Error KeyPair × σ :=
  match source with
  | .golden => (Golden.keys, s)
  | .random => KeyPair.derive none permute s

def prepareZiggy (source : InputSource) (permute : Permutation) (s : σ) :
    Except Error ProverInputs × σ :=
  match keysOf source permute s with
  | (.error e, s) => (.error e, s)
  | (.ok k, s) =>
    let (queries, s) := drawQueries ziggyMinQueries (by decide) s
    ((Schedule.ofTraceLength ziggyTraceLength queries true).map fun parameters =>
      ⟨parameters, (ziggyClaim scenarioMessage k).toValue, k.privateInput, .standard⟩, s)

def prepare (scheme : Scheme) (source : InputSource) (zeroKnowledge : Bool) (permute : Permutation)
    (s : σ) : Except Error ProverInputs × σ :=
  match scheme with
  | .rescue => prepareRescue source zeroKnowledge permute s
  | .ziggy => prepareZiggy source permute s

end ProverInputs
end ProofTrial
