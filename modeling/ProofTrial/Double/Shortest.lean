import ProofTrial.Double.Basic

/-!
The decimal that stands for a magnitude: of those that round to it the shortest, of these the
nearest.
-/
namespace ProofTrial.Double

/-- The neighbours of a magnitude among the multiples of `10 ^ k`, the nearer one first; of two
equally near the even one. -/
def neighbours (x : Double) (k : Int) : List Nat :=
  let (n, d) := scaled 2 x.mantissa 1 x.exponent
  let (n, d) := scaled 10 n d (-k)
  let below := n / d
  if roundDiv n d = below then [below, below + 1] else [below + 1, below]

/-- The neighbour that rounds to the magnitude again. -/
def onGrid? (x : Double) (k : Int) : Option Nat :=
  (x.neighbours k).find? fun digits => ofDecimal? digits k = some x

/-- A power of ten above the magnitude: two has less than 0.30103 decimal places. -/
def decimalBound (x : Double) : Int :=
  (x.mantissa.log2 + x.exponent + 1) * 30103 / 100000 + 2

/-- Digits and exponent. Seventeen digits are always enough. -/
def shortest (x : Double) : Nat × Int :=
  ((List.range 20).findSome? fun i : Nat =>
    let k := x.decimalBound - 1 - i
    (x.onGrid? k).map fun digits => (digits, k)).getD (0, 0)

end ProofTrial.Double
