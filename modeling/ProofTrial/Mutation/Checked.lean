import ProofTrial.Error
import ProofTrial.Mutation.Basic

/-!
The operators on proofs: a text that is no proof is refused, and a result that is none would be
reported as a defect.
-/
namespace ProofTrial.Mutation

def apply {σ : Type} [RandomSource σ] (m : Mutation) (text : String) (s : σ) :
    Except Error String × σ :=
  if ProofHex.isWellFormed text then
    let (output, s) := m.transform text s
    if ProofHex.isWellFormed output then (.ok output, s)
    else (.error (.mutationInvariant m.name output), s)
  else (.error (.invalidParameter (.proofMalformed text.utf8ByteSize)), s)

end ProofTrial.Mutation
