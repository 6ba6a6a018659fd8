import ProofTrial.Text.Hex

/-!
The 62-bit prime field shared by prover and verifier. Sampled words are residues scaled by
2 ^ 64, and `fromMontgomery` takes the scale off.
-/
namespace ProofTrial

namespace Field

def prime : Nat := 0x2000001400000001

def primeBits : Nat := 62

/-- Keeps the bits that a number below the prime may use. -/
def candidateMask : Nat := 2 ^ primeBits - 1

/-- 2 ^ 64 modulo the prime. -/
def montgomeryR : Nat := 0x1fffff73fffffff9

def mul (a b : Nat) : Nat := a * b % prime

/-- Squares `base` once for each binary digit of the exponent. -/
def powLoop (result base exponent : Nat) : Nat :=
  if h : exponent = 0 then result
  else powLoop (if exponent % 2 = 1 then mul result base else result) (mul base base) (exponent / 2)
termination_by exponent
decreasing_by omega

def pow (base exponent : Nat) : Nat := powLoop 1 (base % prime) exponent

/-- 2 ^ -64 modulo the prime: half of `prime + 1` is the inverse of two. -/
def montgomeryRInv : Nat := pow ((prime + 1) / 2) 64

def fromMontgomery (residue : Nat) : Nat := mul residue montgomeryRInv

theorem prime_pos : 0 < prime := by decide

theorem mul_lt_prime (a b : Nat) : mul a b < prime := Nat.mod_lt _ prime_pos

theorem fromMontgomery_lt_prime (r : Nat) : fromMontgomery r < prime := mul_lt_prime _ _

end Field

/-- A field element by its canonical representative. -/
structure Felt where
  val : Nat
  isLt : val < Field.prime
  deriving DecidableEq, Repr

namespace Felt

def zero : Felt := ⟨0, Field.prime_pos⟩

def ofNat? (n : Nat) : Option Felt :=
  if h : n < Field.prime then some ⟨n, h⟩ else none

/-- The element that a number stands for modulo the prime. -/
def ofNatMod (n : Nat) : Felt := ⟨n % Field.prime, Nat.mod_lt _ Field.prime_pos⟩

def hex (x : Felt) : String := Hex.word x.val

end Felt
end ProofTrial
