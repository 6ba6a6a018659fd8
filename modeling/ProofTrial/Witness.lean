import ProofTrial.Failure
import ProofTrial.Json.Basic
import ProofTrial.Permutation.Basic
import ProofTrial.Random.Range
import ProofTrial.Schedule

/-!
Witnesses of hash chains: a row to start from and one row for each hash.
-/
namespace ProofTrial

structure Witness where
  rows : List Row
  deriving DecidableEq, Repr

namespace Witness

/-- Rows of the trace for each instance. -/
def airHeight : Nat := 32

def hashesPerInstance : Nat := 3

/-- Most instances of a chain whose length is drawn. -/
def maxRandomInstances : Nat := 32

def chainLength (w : Witness) : Nat := w.rows.length - 1

def ofRows (rows : List Row) : Except Error Witness :=
  match Schedule.checkChainLength (rows.length - 1) hashesPerInstance with
  | .error e => .error e
  | .ok () => .ok ⟨rows⟩

/-- Reads one row after the other. -/
def readRows : List (List String) → Except Error (List Row)
  | [] => .ok []
  | r :: rs =>
    match Row.ofHex r with
    | .error e => .error e
    | .ok row => (readRows rs).map (row :: ·)

def ofHexRows (rows : List (List String)) : Except Error Witness :=
  match readRows rows with
  | .error e => .error e
  | .ok rows => ofRows rows

def toHexRows (w : Witness) : List (List String) := w.rows.map Row.toHex

variable {σ : Type} [RandomSource σ]

/-- Four elements in the order they are drawn. -/
def randomRow (s : σ) : Row × σ :=
  let (a, s) := Random.felt s
  let (b, s) := Random.felt s
  let (c, s) := Random.felt s
  let (d, s) := Random.felt s
  (#v[a, b, c, d], s)

def randomRows : Nat → σ → List Row × σ
  | 0, s => ([], s)
  | n + 1, s =>
    let first := randomRow s
    let rest := randomRows n first.2
    (first.1 :: rest.1, rest.2)

/-- Bytes of a row in memory. -/
def rowBytes : Nat := 32

/-- The length is checked first. Then room for all rows is made before the first is drawn. -/
def random (chainLength : Nat) (s : σ) : Except Failure Witness × σ :=
  match Schedule.checkChainLength chainLength hashesPerInstance with
  | .error e => (.error (.error e), s)
  | .ok () =>
    if hasRoom (chainLength + 1) rowBytes then
      let (rows, s) := randomRows (chainLength + 1) s
      (.ok ⟨rows⟩, s)
    else (.error (.crash .capacity), s)

def randomChainLength (s : σ) : Nat × σ :=
  let (i, s) := Random.below64 maxRandomInstances (by decide) s
  (hashesPerInstance * (1 + i.val), s)

/-- A witness of a length that is drawn first. Such a length needs no check, and its rows have
room. -/
def drawn (s : σ) : Witness × σ :=
  let (n, s) := randomChainLength s
  let (rows, s) := randomRows (n + 1) s
  (⟨rows⟩, s)

end Witness

/-- A witness with the output of its chain. -/
structure ChainProof where
  witness : Witness
  output : Row
  deriving DecidableEq, Repr

namespace ChainProof

/-- The proof that a witness makes with a permutation. -/
def ofWitness (permute : Permutation) (w : Witness) : Except Error ChainProof :=
  (permute.hashChain w.rows).map (⟨w, ·⟩)

section Random

variable {σ : Type} [RandomSource σ]

/-- A random witness of the given length, or of a length drawn first. -/
def generate (chainLength : Option Nat) (permute : Permutation) (s : σ) :
    Except Failure ChainProof × σ :=
  let (n, s) :=
    match chainLength with
    | some n => (n, s)
    | none => Witness.randomChainLength s
  match Witness.random n s with
  | (.error f, s) => (.error f, s)
  | (.ok w, s) => ((ofWitness permute w).mapError .error, s)

/-- The proof of a drawn witness, which is what `generate` makes without a length. -/
def ofDrawn (permute : Permutation) (s : σ) : Except Error ChainProof × σ :=
  let (w, s) := Witness.drawn s
  (ofWitness permute w, s)

end Random

/-- The private input file. -/
def privateInput (p : ChainProof) : Json :=
  .object [("witness", .array (p.witness.toHexRows.map Json.strings))]

end ChainProof
end ProofTrial
