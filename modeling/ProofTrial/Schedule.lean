import ProofTrial.Parameters

/-!
Parameters of the low-degree test. The trace is as long as the least power of two that holds
the chain; zero knowledge pads it by the least power-of-two factor that leaves room for two rows
more than there are queries. The step list is a zero and one fold for each halving.
-/
namespace ProofTrial

namespace Schedule

def logCosets : Nat := 4

def lastLayerDegreeBound : Nat := 1

def proofOfWorkBits : Nat := 15

def constraintPolynomialTaskSize : Nat := 256

/-- Lengths are 64-bit numbers. -/
def lengthLimit : Nat := 2 ^ 64

/-- Doubles `p` until it reaches `n`, at most `fuel` times. -/
def doubleTo (n : Nat) : Nat → Nat → Nat
  | 0, p => p
  | fuel + 1, p => if n ≤ p then p else doubleTo n fuel (2 * p)

/-- The least power of two at or above `n`. -/
def nextPowerOfTwo (n : Nat) : Nat := doubleTo n n 1

/-- Halvings of `n` until it is odd, at most `fuel` of them. -/
def countHalvings : Nat → Nat → Nat
  | 0, _ => 0
  | fuel + 1, n => if n % 2 = 0 then countHalvings fuel (n / 2) + 1 else 0

/-- How often two divides a positive number below the limit. -/
def halvings (n : Nat) : Nat := countHalvings 64 n

def isPowerOfTwo (n : Nat) : Bool := n != 0 && nextPowerOfTwo n == n

/-- A chain has a positive number of hashes that fills whole instances. -/
def checkChainLength (chainLength hashesPerInstance : Nat) : Except Error Unit :=
  if hashesPerInstance = 0 then .error (.invalidParameter .hashesPerInstanceZero)
  else if chainLength = 0 ∨ chainLength % hashesPerInstance ≠ 0 then
    .error (.invalidParameter (.chainLength hashesPerInstance chainLength))
  else .ok ()

/-- The trace of a chain, with `airHeight` rows for each instance. -/
def traceLength (chainLength airHeight hashesPerInstance : Nat) : Except Error Nat := do
  checkChainLength chainLength hashesPerInstance
  if airHeight = 0 then
    .error (.invalidParameter .airHeightZero)
  else
    let rows := chainLength / hashesPerInstance * airHeight
    if rows ≤ lengthLimit / 2 then .ok (nextPowerOfTwo rows)
    else .error (.invalidParameter (.traceOverflow chainLength))

/-- Rows that a padded trace must hold at least. -/
def paddedRows (traceLength queries : Nat) : Nat := traceLength + queries + 2

/-- How many parts of `size` rows hold `rows` of them. -/
def partsFor (rows size : Nat) : Nat := (rows + (size - 1)) / size

/-- The least power of two by which the trace is stretched to hold its padded rows. -/
def slackness (traceLength queries : Nat) : Nat :=
  nextPowerOfTwo (partsFor (paddedRows traceLength queries) traceLength)

def ofTraceLength (traceLength queries : Nat) (zeroKnowledge : Bool) :
    Except Error ProverParameters :=
  if !isPowerOfTwo traceLength then
    .error (.invalidParameter (.traceNotPowerOfTwo traceLength))
  else if queries = 0 then .error (.invalidParameter .queriesZero)
  else
    let padded := (if zeroKnowledge then slackness traceLength queries else 1) * traceLength
    if padded < lengthLimit then
      .ok {
        logCosets := logCosets
        zeroKnowledge := zeroKnowledge
        fri := {
          lastLayerDegreeBound := lastLayerDegreeBound
          queries := queries
          stepList := 0 :: List.replicate (halvings padded) 1
          proofOfWorkBits := proofOfWorkBits } }
    else .error (.invalidParameter (.paddedTraceOverflow traceLength))

/-- Parameters for a chain of hashes. -/
def ofChainLength (chainLength airHeight hashesPerInstance queries : Nat) (zeroKnowledge : Bool) :
    Except Error ProverParameters := do
  let t ← traceLength chainLength airHeight hashesPerInstance
  ofTraceLength t queries zeroKnowledge

end Schedule

def ProverConfig.standard : ProverConfig := ⟨Schedule.constraintPolynomialTaskSize⟩

end ProofTrial
