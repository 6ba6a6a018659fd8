import ProofTrial.Double.Shortest

/-!
Numbers of JSON texts: integers of 64 bits, and floating-point numbers for all others.
-/
namespace ProofTrial

/-- A number as it is written: a sign, the digits before and behind the point, an exponent. -/
structure Numeral where
  negative : Bool
  whole : List Nat
  fraction : List Nat
  exponent : Option Int
  deriving DecidableEq, Repr

inductive Number where
  | integer (n : Int)
  | float (negative : Bool) (magnitude : Double)
  deriving DecidableEq, Repr

namespace Number

def minInteger : Int := -2 ^ 63

def maxInteger : Int := 2 ^ 64 - 1

/-- More digits of a number, as long as it stays below `2 ^ 64`, and the digits left over. -/
def absorb (n : Nat) : List Nat → Nat × List Nat
  | [] => (n, [])
  | d :: ds => if 10 * n + d < 2 ^ 64 then absorb (10 * n + d) ds else (n, d :: ds)

/-- The largest power of ten used in one step. -/
def maxPower : Nat := 308

def powerOfTen? (n : Nat) : Option Double := Double.ofNat? (10 ^ n)

/-- `x * 10 ^ exponent`, rounded after each step; absent when it is out of range. -/
def scale? (x : Double) (exponent : Int) : Option Double :=
  if exponent.natAbs ≤ maxPower then do
    let power ← powerOfTen? exponent.natAbs
    if 0 ≤ exponent then x.mul? power else x.div? power
  else if x = Double.zero then some x
  else if 0 ≤ exponent then none
  else do
    let y ← x.div? (← powerOfTen? maxPower)
    scale? y (exponent + maxPower)
termination_by (-exponent).toNat
decreasing_by simp only [maxPower] at *; omega

/-- A number of digits alone, when it is one of the integers; zero with a sign is none. -/
def integer? (negative : Bool) (n : Nat) : Option Number :=
  if negative then
    if n ≠ 0 ∧ minInteger ≤ -n then some (.integer (-n)) else none
  else if n ≤ maxInteger then some (.integer n) else none

/-- As many leading digits as 64 bits can hold count in full, the others by their places. -/
def float? (t : Numeral) : Option Number :=
  let (n, dropped) := absorb 0 t.whole
  let (n, ignored) := absorb n t.fraction
  let places : Int := dropped.length - (t.fraction.length - ignored.length : Nat)
  do
    let x ← Double.ofNat? n
    let y ← scale? x (places + t.exponent.getD 0)
    some (.float t.negative y)

/-- The number that a numeral stands for, absent when it is out of range. -/
def ofNumeral? (t : Numeral) : Option Number :=
  match absorb 0 t.whole, t.fraction, t.exponent with
  | (n, []), [], none => (integer? t.negative n).or (float? t)
  | _, _, _ => float? t

/-- Decimal places from which numbers are written with an exponent. -/
def positionalLimit : Int := 16

def exponentChars (n : Int) : List Char :=
  'e' :: (if n < 0 then '-' else '+') :: Nat.toDigits 10 n.natAbs

/-- The decimal of the given digits, with at least one of them behind the point, or with an
exponent when it is large or small. -/
def decimalChars (ds : List Char) (exponent : Int) : List Char :=
  let point := exponent + ds.length
  if 0 ≤ exponent ∧ point ≤ positionalLimit then
    ds ++ List.replicate exponent.toNat '0' ++ ['.', '0']
  else if 0 < point ∧ point ≤ positionalLimit then
    ds.take point.toNat ++ '.' :: ds.drop point.toNat
  else if -5 < point ∧ point ≤ 0 then
    '0' :: '.' :: (List.replicate (-point).toNat '0' ++ ds)
  else
    match ds with
    | [d] => d :: exponentChars (point - 1)
    | d :: r => d :: '.' :: (r ++ exponentChars (point - 1))
    | [] => exponentChars (point - 1)

def magnitudeChars (x : Double) : List Char :=
  if x = Double.zero then ['0', '.', '0']
  else
    let (digits, exponent) := x.shortest
    decimalChars (Nat.toDigits 10 digits) exponent

def chars : Number → List Char
  | integer n => if n < 0 then '-' :: Nat.toDigits 10 n.natAbs else Nat.toDigits 10 n.natAbs
  | float negative x => if negative then '-' :: magnitudeChars x else magnitudeChars x

end Number
end ProofTrial
