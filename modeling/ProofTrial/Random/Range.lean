import ProofTrial.Field
import ProofTrial.Random.Basic

/-!
Numbers below a bound from words of a source. The word is scaled by multiplication; when the
part cut off is so large that a second word could still carry into the result, that word is
drawn and its carry added. `scaled_lt` says that the result stays below the bound.
-/
namespace ProofTrial.Random

/-- The word `x` of `bits` bits scaled to `0 ≤ r < n`, with `carry` added to the part cut off. -/
def scaled (bits n x carry : Nat) : Nat := (x * n + carry) / 2 ^ bits

/-- Whether a second word could still change the result. -/
def needsCarry (bits n x : Nat) : Bool := 2 ^ bits - n < x * n % 2 ^ bits

theorem scaled_lt {bits n x carry : Nat} (hx : x < 2 ^ bits) (hc : carry < n) :
    scaled bits n x carry < n := by
  unfold scaled
  rw [Nat.div_lt_iff_lt_mul (Nat.two_pow_pos bits)]
  have h : (x + 1) * n ≤ 2 ^ bits * n := Nat.mul_le_mul_right n hx
  rw [Nat.add_mul, Nat.one_mul] at h
  rw [Nat.mul_comm n]
  omega

theorem scaled_zero_lt {bits n x : Nat} (hx : x < 2 ^ bits) (hn : 0 < n) :
    scaled bits n x 0 < n := scaled_lt hx hn

variable {σ : Type} [RandomSource σ]

/-- Uniform below `n`, from 32-bit words. -/
def below32 (n : Nat) (h : 0 < n) (s : σ) : Fin n × σ :=
  let x := (RandomSource.word32 s).1
  let s := (RandomSource.word32 s).2
  if needsCarry 32 n x.toNat then
    let y := (RandomSource.word32 s).1
    (⟨scaled 32 n x.toNat (scaled 32 n y.toNat 0),
      scaled_lt x.toNat_lt (scaled_zero_lt y.toNat_lt h)⟩, (RandomSource.word32 s).2)
  else (⟨scaled 32 n x.toNat 0, scaled_zero_lt x.toNat_lt h⟩, s)

/-- Uniform below `n`, from 64-bit words. -/
def below64 (n : Nat) (h : 0 < n) (s : σ) : Fin n × σ :=
  let x := (RandomSource.word64 s).1
  let s := (RandomSource.word64 s).2
  if needsCarry 64 n x.toNat then
    let y := (RandomSource.word64 s).1
    (⟨scaled 64 n x.toNat (scaled 64 n y.toNat 0),
      scaled_lt x.toNat_lt (scaled_zero_lt y.toNat_lt h)⟩, (RandomSource.word64 s).2)
  else (⟨scaled 64 n x.toNat 0, scaled_zero_lt x.toNat_lt h⟩, s)

/-- A position in a list of `n` things; short lists take a 32-bit word. -/
def index (n : Nat) (h : 0 < n) (s : σ) : Fin n × σ :=
  if n < 2 ^ 32 then below32 n h s else below64 n h s

/-- True for one half of the 64-bit words, the lower one. -/
def coin (s : σ) : Bool × σ :=
  let (x, s) := RandomSource.word64 s
  (x.toNat < 2 ^ 63, s)

def felt (s : σ) : Felt × σ :=
  let (x, s) := below64 Field.prime Field.prime_pos s
  (⟨x.val, x.isLt⟩, s)

/-- `n` elements in the order they are drawn. -/
def felts : Nat → σ → List Felt × σ
  | 0, s => ([], s)
  | n + 1, s =>
    let (x, s) := felt s
    let (xs, s) := felts n s
    (x :: xs, s)

end ProofTrial.Random
