import ProofTrial.Random.Basic

/-!
A source that repeats a list of 64-bit words. Smaller draws spend a whole word each.
-/
namespace ProofTrial

structure WordCycle where
  words : List UInt64
  /-- Words drawn so far. -/
  position : Nat
  deriving DecidableEq, Repr

namespace WordCycle

def ofWords (words : List UInt64) : WordCycle := ⟨words, 0⟩

def wordAt (s : WordCycle) (i : Nat) : UInt64 :=
  s.words.getD (i % s.words.length) 0

def byteOf (w : UInt64) (i : Nat) : UInt8 := (w >>> (8 * UInt64.ofNat i)).toUInt8

instance : RandomSource WordCycle where
  word32 s := ((s.wordAt s.position).toUInt32, { s with position := s.position + 1 })
  word64 s := (s.wordAt s.position, { s with position := s.position + 1 })
  bytes n s :=
    (Vector.ofFn fun i => byteOf (s.wordAt (s.position + i.val / 8)) (i.val % 8),
      { s with position := s.position + (n + 7) / 8 })

end WordCycle
end ProofTrial
