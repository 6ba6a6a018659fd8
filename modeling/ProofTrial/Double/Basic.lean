import ProofTrial.Power

/-!
Magnitudes of binary floating point with 53 bits. Every operation is the exact one on fractions
of natural numbers, rounded to the nearest magnitude; a tie goes to the even mantissa.
-/
namespace ProofTrial

/-- The number `mantissa * 2 ^ exponent`. Rounding gives each magnitude in one spelling: with 53
bits, or with the least exponent. -/
structure Double where
  mantissa : Nat
  exponent : Int
  deriving DecidableEq, Repr

namespace Double

def precision : Nat := 53

def minExponent : Int := -1074

def maxExponent : Int := 971

def zero : Double := ⟨0, minExponent⟩

/-- The natural number nearest to a quotient. -/
def roundDiv (num den : Nat) : Nat :=
  let q := num / den
  let r := num % den
  if 2 * r < den ∨ (2 * r = den ∧ q % 2 = 0) then q else q + 1

/-- Numerator and denominator of `num / den * base ^ shift`. -/
def scaled (base num den : Nat) (shift : Int) : Nat × Nat :=
  (num * base ^ shift.toNat, den * base ^ (-shift).toNat)

/-- The exponent at which a fraction that is not zero has 53 bits, or the least one. -/
def exponentOf (num den : Nat) : Int :=
  let bits : Int := num.log2 - den.log2
  let (n, d) := scaled 2 num den (-bits)
  max minExponent (if d ≤ n then bits + 1 - precision else bits - precision)

/-- The magnitude nearest to a fraction, absent beyond the largest one. -/
def ofFraction? (num den : Nat) : Option Double :=
  if num = 0 then some zero
  else
    let exponent := exponentOf num den
    let (n, d) := scaled 2 num den (-exponent)
    let m := roundDiv n d
    let x : Double := if m = 2 ^ precision then ⟨m / 2, exponent + 1⟩ else ⟨m, exponent⟩
    if x.exponent ≤ maxExponent then some x else none

def ofNat? (n : Nat) : Option Double := ofFraction? n 1

/-- The magnitude nearest to `digits * 10 ^ exponent`. -/
def ofDecimal? (digits : Nat) (exponent : Int) : Option Double :=
  let (n, d) := scaled 10 digits 1 exponent
  ofFraction? n d

def mul? (x y : Double) : Option Double :=
  let (n, d) := scaled 2 (x.mantissa * y.mantissa) 1 (x.exponent + y.exponent)
  ofFraction? n d

def div? (x y : Double) : Option Double :=
  let (n, d) := scaled 2 x.mantissa y.mantissa (x.exponent - y.exponent)
  ofFraction? n d

end Double
end ProofTrial
