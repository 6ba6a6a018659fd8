import ProofTrial.Claim.Basic
import ProofTrial.Field.Text
import ProofTrial.Random.Range
import ProofTrial.Scheme
import ProofTrial.Witness

/-!
Corruptions of public claims. Each touches one field: the chain length moves by one instance,
a word of a vector changes in one bit, a character of the message changes in one bit.
-/
namespace ProofTrial

inductive Corruption : Scheme → Type where
  | chainLength : Corruption .rescue
  | output : Corruption .rescue
  | message : Corruption .ziggy
  | publicKey : Corruption .ziggy
  deriving DecidableEq, Repr

namespace Corruption

def name : Corruption scheme → String
  | chainLength => "chain_length"
  | output => "output"
  | message => "message"
  | publicKey => "public_key"

def all : (scheme : Scheme) → List (Corruption scheme)
  | .rescue => [chainLength, output]
  | .ziggy => [message, publicKey]

def ofName? (scheme : Scheme) (text : String) : Option (Corruption scheme) :=
  (all scheme).find? (·.name == text)

def chainLengthShift : Int := Witness.hashesPerInstance

/-- Takes the place of a length that fell to zero or below. -/
def fallbackChainLength : Int := 2 * Witness.hashesPerInstance

/-- Highest bit changed in a word. -/
def maxWordBit : Nat := 60

/-- Highest bit changed in a character. -/
def maxCharBit : Nat := 7

def clamp (n : Int) : Int := max Claim.minChainLength (min Claim.maxChainLength n)

/-- The length one shift up or down, within its range and positive. -/
def shifted (up : Bool) (n : Int) : Int :=
  let m := clamp (if up then n + chainLengthShift else n - chainLengthShift)
  if 0 < m then m else fallbackChainLength

variable {σ : Type} [RandomSource σ]

def shiftChainLength (n : Int) (s : σ) : Int × σ :=
  let (up, s) := Random.coin s
  (shifted up n, s)

/-- Changes one bit of one of four words where they stand: what came of it, and the words and the
source as it leaves them. The word is drawn before it is read. -/
def flipInPlace (words : List String) (s : σ) : Except Error Unit × List String × σ :=
  if h : words.length = wordSize then
    let (i, s) := Random.index wordSize (by decide) s
    match readWord (words.get (i.cast h.symm)) with
    | .error e => (.error e, words, s)
    | .ok v =>
      let (bit, s) := Random.below32 (maxWordBit + 1) (by decide) s
      (.ok (), words.set i (Hex.word (v ^^^ 2 ^ bit.val)), s)
  else (.error (.invalidParameter (.claimVectorLength words.length)), words, s)

/-- The words that a change of one bit leaves, when it succeeds. -/
def flipWordBit (words : List String) (s : σ) : Except Error (List String) × σ :=
  let (r, after, s) := flipInPlace words s
  (r.map fun _ => after, s)

/-- The character whose code point differs in one bit. -/
def flipCodePoint (bit : Nat) (c : Char) : Except Error Char :=
  let code := c.toNat ^^^ 2 ^ bit
  if code.isValidChar then .ok (Char.ofNat code) else .error (.internal (.codePoint code))

/-- Changes one bit of one character. -/
def flipCharBit (message : String) (s : σ) : Except Error String × σ :=
  let cs := message.toList
  if h : 0 < cs.length then
    let (i, s) := Random.index cs.length h s
    let (bit, s) := Random.below32 (maxCharBit + 1) (by decide) s
    match flipCodePoint bit (cs.get i) with
    | .error e => (.error e, s)
    | .ok c => (.ok (String.ofList (cs.set i c)), s)
  else (.error (.invalidParameter .messageEmpty), s)

/-- The claim with the field of the corruption changed. -/
def corruptRescue (c : Corruption .rescue) (claim : RescueClaim) (s : σ) :
    Except Error RescueClaim × σ :=
  match c with
  | chainLength =>
    let (n, s) := shiftChainLength claim.chainLength s
    (.ok { claim with chainLength := n }, s)
  | output =>
    let (words, s) := flipWordBit claim.output s
    (words.map fun ws => { claim with output := ws }, s)

def corruptZiggy (c : Corruption .ziggy) (claim : ZiggyClaim) (s : σ) :
    Except Error ZiggyClaim × σ :=
  match c with
  | message =>
    let (text, s) := flipCharBit claim.message s
    (text.map fun t => { claim with message := t }, s)
  | publicKey =>
    let (words, s) := flipWordBit claim.publicKey s
    (words.map fun ws => { claim with publicKey := ws }, s)

/-- The public input with the field of the corruption changed. -/
def apply : {scheme : Scheme} → Corruption scheme → Json → σ → Except Error Json × σ
  | .rescue, c, v, s =>
    match Claim.rescueOfValue v with
    | .error e => (.error e, s)
    | .ok claim =>
      let (claim, s) := corruptRescue c claim s
      (claim.map RescueClaim.toValue, s)
  | .ziggy, c, v, s =>
    match Claim.ziggyOfValue v with
    | .error e => (.error e, s)
    | .ok claim =>
      let (claim, s) := corruptZiggy c claim s
      (claim.map ZiggyClaim.toValue, s)

end Corruption
end ProofTrial
