/-!
The two proving schemes under trial: knowledge of a hash-chain witness, and signatures as
knowledge of a permutation preimage.
-/
namespace ProofTrial

inductive Scheme where
  | rescue
  | ziggy
  deriving DecidableEq, Repr

namespace Scheme

def all : List Scheme := [rescue, ziggy]

def name : Scheme → String
  | rescue => "rescue"
  | ziggy => "ziggy"

def ofName? (text : String) : Option Scheme := all.find? (·.name == text)

def proverName (s : Scheme) : String := s.name ++ "_prover"

def verifierName (s : Scheme) : String := s.name ++ "_verifier"

/-- What a verifier prints on accepting. -/
def successMarker : Scheme → String
  | rescue => "Proof verified successfully."
  | ziggy => "Ziggy signature verified successfully."

/-- What a verifier prints on rejecting. -/
def failureMarker : Scheme → String
  | rescue => "Invalid proof."
  | ziggy => "Invalid Ziggy signature."

end Scheme
end ProofTrial
