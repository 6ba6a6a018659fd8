import ProofTrial.Keys
import ProofTrial.Witness

/-!
Fixed inputs with known answers, for trials that call no permutation. They are given as texts and
read like any other input.
-/
namespace ProofTrial.Golden

def evenWords : List String := ["0x1", "0x2", "0x3", "0x4"]

def oddWords : List String := ["0x5", "0x6", "0x7", "0x8"]

def outputWords : List String :=
  ["0x68956e24301f0d6", "0x1db6f48d1e36f2b4", "0x15ba54b9652e4c33", "0x199d7c05484a2ff8"]

def chain : Except Error ChainProof := do
  let witness ← Witness.ofHexRows [evenWords, oddWords, evenWords, oddWords]
  let output ← Row.ofHex outputWords
  .ok ⟨witness, output⟩

def privateKeyText : String :=
  "0x000102030405060708090a0b0c0d0e0f101112131415161718191a1b1c1d1e1f"

def publicKeyWords : List String :=
  ["0x9fe62e51380bdfc", "0x176df573b3bf5d69", "0xdac18e0d0724b33", "0x1dbba6f8ff63183a"]

def keys : Except Error KeyPair := KeyPair.ofHex privateKeyText publicKeyWords

end ProofTrial.Golden
