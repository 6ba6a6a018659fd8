import ProofTrial.Error
import ProofTrial.Field

/-!
Field elements as hex words: any spelling of a word below the prime is read, one is written.
-/
namespace ProofTrial

/-- Reads a 64-bit word. -/
def readWord (text : String) : Except Error Nat :=
  (Hex.readWord text).mapError fun f => .invalidParameter (.word text f)

namespace Felt

def ofHex (text : String) : Except Error Felt :=
  match readWord text with
  | .error e => .error e
  | .ok n =>
    match ofNat? n with
    | some x => .ok x
    | none => .error (.invalidParameter (.notBelowPrime text))

/-- Reads one element after the other. -/
def listOfHex : List String → Except Error (List Felt)
  | [] => .ok []
  | t :: ts =>
    match ofHex t with
    | .error e => .error e
    | .ok x => (listOfHex ts).map (x :: ·)

theorem listOfHex_length {ts : List String} {xs : List Felt} (h : listOfHex ts = .ok xs) :
    xs.length = ts.length := by
  induction ts generalizing xs with
  | nil => simp_all [listOfHex]
  | cons t ts ih =>
    simp only [listOfHex] at h
    split at h
    · simp at h
    · cases hr : listOfHex ts with
      | error e => simp [hr, Except.map] at h
      | ok ys =>
        simp only [hr, Except.map, Except.ok.injEq] at h
        simp [← h, ih hr]

end Felt

/-- Elements of a witness row, of a permutation's output and of a public key. -/
def wordSize : Nat := 4

abbrev Row := Vector Felt 4

namespace Row

/-- Elements in their order, when there are four. -/
def ofHexWith (wrongLength : Nat → ParameterFault) (words : List String) : Except Error Row :=
  if hn : words.length = wordSize then
    match h : Felt.listOfHex words with
    | .error e => .error e
    | .ok xs => .ok ⟨xs.toArray, by simp [Felt.listOfHex_length h, hn, wordSize]⟩
  else .error (.invalidParameter (wrongLength words.length))

def ofHex (words : List String) : Except Error Row := ofHexWith .rowLength words

def toHex (row : Row) : List String := row.toList.map Felt.hex

end Row
end ProofTrial
