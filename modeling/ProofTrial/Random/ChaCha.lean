import ProofTrial.Blake2s
import ProofTrial.Random.Basic

/-!
ChaCha with twelve rounds, a 64-bit block counter and no nonce, as a source of 32-bit words.
`block` gives the sixteen words of a block, `wordAt` names the words of the stream by position,
and a source is a key with the number of words spent.
-/
namespace ProofTrial

structure ChaCha where
  key : Digest
  /-- 32-bit words drawn so far. -/
  position : Nat
  deriving DecidableEq, Repr

namespace ChaCha

abbrev Words := Vector UInt32 16

def ofKey (key : Digest) : ChaCha := ⟨key, 0⟩

def rotateLeft (x : UInt32) (n : UInt32) : UInt32 := (x <<< n) ||| (x >>> (32 - n))

/-- The mixing of BLAKE2s without message words, turning the other way. -/
def quarterRound (v : Words) (a b c d : Fin 16) : Words :=
  Blake2s.mixWith rotateLeft v a b c d 0 0

def doubleRound (v : Words) : Words := Blake2s.overLanes (fun _ => quarterRound) v

def startWords (key : Digest) (counter : Nat) : Words :=
  let bytes := key.toArray
  let k := Blake2s.littleEndianWord bytes
  #v[0x61707865, 0x3320646e, 0x79622d32, 0x6b206574, k 0, k 1, k 2, k 3, k 4, k 5, k 6, k 7,
    UInt32.ofNat counter, UInt32.ofNat (counter / 2 ^ 32), 0, 0]

def doubleRounds : Nat := 6

def block (key : Digest) (counter : Nat) : Words :=
  let start := startWords key counter
  let mixed := (List.range doubleRounds).foldl (fun v _ => doubleRound v) start
  start.zipWith (· + ·) mixed

def wordAt (key : Digest) (i : Nat) : UInt32 :=
  (block key (i / 16)).get ⟨i % 16, Nat.mod_lt i (by decide)⟩

def byteOf (w : UInt32) (i : Nat) : UInt8 := (w >>> (8 * UInt32.ofNat i)).toUInt8

/-- A word of 64 bits is two of 32, the low half first. -/
def wideWordAt (key : Digest) (i : Nat) : UInt64 :=
  (wordAt key i).toUInt64 ||| ((wordAt key (i + 1)).toUInt64 <<< 32)

instance : RandomSource ChaCha where
  word32 s := (wordAt s.key s.position, { s with position := s.position + 1 })
  word64 s := (wideWordAt s.key s.position, { s with position := s.position + 2 })
  bytes n s :=
    (Vector.ofFn fun i => byteOf (wordAt s.key (s.position + i.val / 4)) (i.val % 4),
      { s with position := s.position + (n + 3) / 4 })

end ChaCha
end ProofTrial
