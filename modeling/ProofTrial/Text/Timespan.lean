import ProofTrial.Power

/-!
Time spans in nanoseconds, written in the largest unit with a whole part.
-/
namespace ProofTrial

structure Timespan where
  nanoseconds : Nat
  deriving DecidableEq, Repr

namespace Timespan

def ofSeconds (n : Nat) : Timespan := ⟨n * 1000000000⟩

def ofMilliseconds (n : Nat) : Timespan := ⟨n * 1000000⟩

/-- The fraction `part / 10 ^ places` with its point, nothing when it is zero. -/
def fraction (part places : Nat) : String :=
  let ds := Nat.toDigits 10 part
  let padded := List.replicate (places - ds.length) '0' ++ ds
  let kept := (padded.reverse.dropWhile (· == '0')).reverse
  if kept.isEmpty then "" else String.ofList ('.' :: kept)

def inUnit (n places : Nat) (unit : String) : String :=
  toString (n / 10 ^ places) ++ fraction (n % 10 ^ places) places ++ unit

def text (t : Timespan) : String :=
  let n := t.nanoseconds
  if 10 ^ 9 ≤ n then inUnit n 9 "s"
  else if 10 ^ 6 ≤ n then inUnit n 6 "ms"
  else if 10 ^ 3 ≤ n then inUnit n 3 "µs"
  else inUnit n 0 "ns"

end Timespan
end ProofTrial
