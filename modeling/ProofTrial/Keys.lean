import ProofTrial.Field.Sampler
import ProofTrial.Json.Basic
import ProofTrial.Permutation.Basic
import ProofTrial.Random.Range

/-!
Signature keys. A private key is a seed of 32 bytes; its digest under a fixed tag starts a
sampler, whose first eight elements are the secret preimage, and the permutation takes that to
the public key.
-/
namespace ProofTrial

structure Seed where
  bytes : Vector UInt8 32
  deriving DecidableEq, Repr

namespace Seed

/-- Digits of a full seed. -/
def digitCount : Nat := 64

/-- The digits of a key text; the mark may be missing. -/
def digitsOf (text : String) : List Char := (Hex.unmark? text.toList).getD text.toList

/-- Zeros in front up to the full number of characters. -/
def pad (digits : List Char) : List Char :=
  List.replicate (digitCount - digits.length) '0' ++ digits

/-- The first byte that is no digit, with its position. -/
def foreignByte? (position : Nat) : List UInt8 → Option (Char × Nat)
  | [] => none
  | b :: r =>
    let c := Char.ofNat b.toNat
    if Hex.isDigit c then foreignByte? (position + 1) r else some (c, position)

/-- The bytes that digits stand for. Their number is checked before the digits are. -/
def decode (text : String) : Except KeyTextFault Seed :=
  let bytes := text.toUTF8.data.toList
  if bytes.length % 2 = 1 then .error .oddLength
  else if bytes.length ≠ digitCount then .error .wrongLength
  else
    match foreignByte? 0 bytes with
    | some (c, position) => .error (.foreign c position)
    | none =>
      let read := (Hex.bytes? (bytes.map fun b => Char.ofNat b.toNat)).getD []
      .ok ⟨Vector.ofFn fun i => read.getD i.val 0⟩

/-- Reads a big-endian number of at most 64 digits. -/
def ofHex (text : String) : Except Error Seed :=
  let digits := digitsOf text
  let size := (String.ofList digits).utf8ByteSize
  if size = 0 ∨ digitCount < size then .error (.invalidParameter (.keyLength size))
  else
    (decode (String.ofList (pad digits))).mapError fun f => .invalidParameter (.keyText text f)

def toHex (s : Seed) : String :=
  String.ofList ('0' :: 'x' :: Hex.bytesDigits s.bytes.toList)

/-- Seeds do not show what they hold. -/
def debugText (_ : Seed) : String := "Seed(..)"

def random {σ : Type} [RandomSource σ] (s : σ) : Seed × σ :=
  let (bytes, s) := RandomSource.bytes 32 s
  (⟨bytes⟩, s)

/-- `Ziggy secret preimage seed` and a zero byte. -/
def domainTag : List UInt8 := "Ziggy secret preimage seed\x00".toUTF8.data.toList

/-- What the chain digest is the digest of. -/
def chainMessage (s : Seed) : List UInt8 := domainTag ++ s.bytes.toList

def chainDigest (s : Seed) : Digest := Blake2s.digest s.chainMessage

def preimageLength : Nat := 8

/-- Rounds after which the sampler counts as stuck. -/
def maxSamplerRounds : Nat := 1024

/-- The first eight accepted elements, of which a list has room for. -/
def secretPreimage (s : Seed) : Except Error (Vector Felt 8) :=
  match h : ((Sampler.ofDigest s.chainDigest).collect preimageLength maxSamplerRounds).1 with
  | .ok xs => .ok ⟨xs.toArray, by simp [Sampler.collect_length h, preimageLength]⟩
  | .error e => .error e

end Seed

structure KeyPair where
  privateKey : Seed
  publicKey : Row
  deriving DecidableEq, Repr

namespace KeyPair

/-- Reads a pair without deriving it. -/
def ofHex (privateKey : String) (publicKey : List String) : Except Error KeyPair := do
  let seed ← Seed.ofHex privateKey
  let row ← Row.ofHex publicKey
  .ok ⟨seed, row⟩

def ofSeed (permute : Permutation) (seed : Seed) : Except Error KeyPair :=
  match seed.secretPreimage with
  | .error e => .error e
  | .ok preimage => (permute preimage).map (⟨seed, ·⟩)

/-- The pair of the given seed, or of one drawn first. -/
def derive {σ : Type} [RandomSource σ] (seed : Option Seed) (permute : Permutation) (s : σ) :
    Except Error KeyPair × σ :=
  match seed with
  | some seed => (ofSeed permute seed, s)
  | none =>
    let (seed, s) := Seed.random s
    (ofSeed permute seed, s)

/-- The private input file. -/
def privateInput (k : KeyPair) : Json :=
  .object [("private_key", .string k.privateKey.toHex)]

end KeyPair
end ProofTrial
