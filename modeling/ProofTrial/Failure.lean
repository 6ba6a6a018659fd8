import ProofTrial.Error

/-!
Failures. Most of them are errors, which callers handle; a crash ends the whole program where it
stands. What can crash fails with a `Failure`, everything else with an `Error`.
-/
namespace ProofTrial

/-- What ends a program at once: a list longer than any can be, or a time limit that ends later than
the clock can show. -/
inductive Crash where
  | capacity
  | deadline
  deriving DecidableEq, Repr

def Crash.message : Crash → String
  | capacity => "capacity overflow"
  | deadline => "overflow when adding duration to instant"

inductive Failure where
  | error (e : Error)
  | crash (c : Crash)
  deriving DecidableEq, Repr

/-- Most bytes that a list takes up. -/
def maxListBytes : Nat := 2 ^ 63 - 1

/-- Whether a list may have `count` elements of `size` bytes each. Where it may, there is taken to be
memory for them. -/
def hasRoom (count size : Nat) : Bool := count * size ≤ maxListBytes

end ProofTrial
