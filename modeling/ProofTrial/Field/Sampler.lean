import ProofTrial.BigEndian
import ProofTrial.Blake2s
import ProofTrial.Failure
import ProofTrial.Field

/-!
Field elements from a seed digest. Each round hashes the digest with the round number and gives
four candidate words; a candidate at or above the prime is rejected, another one is accepted as
a Montgomery residue. `candidate` names the words by position, a `Sampler` hands them out.
-/
namespace ProofTrial

structure Sampler where
  seedDigest : Digest
  rounds : Nat
  /-- Words of the last round not handed out yet. -/
  pending : List Nat
  deriving DecidableEq, Repr

namespace Sampler

def wordsPerRound : Nat := 4

/-- What a round hashes. -/
def roundMessage (seedDigest : Digest) (round : Nat) : List UInt8 :=
  seedDigest.toList ++ BigEndian.bytes 32 round

/-- A digest cut into big-endian words of eight bytes. -/
def digestWords (d : Digest) : List Nat :=
  (List.range wordsPerRound).map fun i => BigEndian.value ((d.toList.drop (8 * i)).take 8)

def roundWords (seedDigest : Digest) (round : Nat) : List Nat :=
  digestWords (Blake2s.digest (roundMessage seedDigest round))

/-- The element of a candidate word, absent when the word is rejected. -/
def accept? (word : Nat) : Option Felt :=
  let candidate := word &&& Field.candidateMask
  if candidate < Field.prime then Felt.ofNat? (Field.fromMontgomery candidate) else none

/-- The answer for the candidate at a position, counted from 0 over all rounds. -/
def candidate (seedDigest : Digest) (position : Nat) : Option Felt :=
  accept? (((roundWords seedDigest (position / wordsPerRound))[position % wordsPerRound]?).getD 0)

def ofDigest (seedDigest : Digest) : Sampler := ⟨seedDigest, 0, []⟩

/-- Starts the next round when no word is pending. -/
def refill (s : Sampler) : Sampler :=
  if s.pending.isEmpty then
    { s with rounds := s.rounds + 1, pending := roundWords s.seedDigest s.rounds }
  else s

/-- Consumes one candidate word. -/
def pull (s : Sampler) : Option Felt × Sampler :=
  let s := s.refill
  (accept? (s.pending.headD 0), { s with pending := s.pending.tail })

/-- Candidates that may still be consumed without starting more than `maxRounds` rounds. -/
def allowance (s : Sampler) (maxRounds : Nat) : Nat :=
  s.pending.length + wordsPerRound * (maxRounds - s.rounds)

/-- Up to `budget` pulls for `wanted` elements; on failure the number of elements found. -/
def takeWithin : Nat → Nat → Nat → Sampler → Except Nat (List Felt) × Sampler
  | _, _, 0, s => (.ok [], s)
  | 0, found, _ + 1, s => (.error found, s)
  | budget + 1, found, wanted + 1, s =>
    match s.pull with
    | (none, s) => takeWithin budget found (wanted + 1) s
    | (some x, s) =>
      match takeWithin budget (found + 1) wanted s with
      | (.ok xs, s) => (.ok (x :: xs), s)
      | (.error n, s) => (.error n, s)

/-- The next `count` accepted elements, unless the rounds run out first. -/
def collect (count maxRounds : Nat) (s : Sampler) : Except Error (List Felt) × Sampler :=
  let (xs, t) := takeWithin (s.allowance maxRounds) 0 count s
  (xs.mapError fun found => .internal (.samplerExhausted found count maxRounds), t)

/-- Bytes of an element in memory. -/
def elementBytes : Nat := 8

/-- The next `count` accepted elements. Room for all of them is made before the first pull. -/
def take (count maxRounds : Nat) (s : Sampler) : Except Failure (List Felt) × Sampler :=
  if hasRoom count elementBytes then
    let (xs, s) := s.collect count maxRounds
    (xs.mapError .error, s)
  else (.error (.crash .capacity), s)

theorem takeWithin_length {budget found wanted : Nat} {s : Sampler} {xs : List Felt}
    (h : (takeWithin budget found wanted s).1 = .ok xs) : xs.length = wanted := by
  fun_induction takeWithin budget found wanted s generalizing xs with
  | case1 => simp_all
  | case2 => simp at h
  | case3 budget found wanted s s' hp ih => exact ih h
  | case4 budget found wanted s x s' hp ys s'' ht ih =>
    simp only [Except.ok.injEq] at h
    subst h
    simp [ih (by rw [ht])]
  | case5 => simp at h

theorem collect_length {count maxRounds : Nat} {s : Sampler} {xs : List Felt}
    (h : (collect count maxRounds s).1 = .ok xs) : xs.length = count := by
  simp only [collect] at h
  cases hx : (takeWithin (s.allowance maxRounds) 0 count s).1 with
  | error n =>
    rw [hx] at h
    contradiction
  | ok ys =>
    rw [hx] at h
    obtain rfl : ys = xs := Except.ok.inj h
    exact takeWithin_length hx

end Sampler
end ProofTrial
