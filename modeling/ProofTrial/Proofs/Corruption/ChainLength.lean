import ProofTrial.Claim.Corruption
import ProofTrial.Proofs.Random.Range

/-! Shifts of a chain length. Every length is shifted to a positive one in range, and to another one
wherever there is room. Whole instances stay whole until the top of the range is within one shift,
so shifts can follow one another for as long as the signs do not lead there. -/
namespace ProofTrial.Corruption

variable {σ : Type} [RandomSource σ]

/-- The signed distance of a shift. -/
def stride (up : Bool) : Int := if up then 3 else -3

theorem shifted_eq (up : Bool) (n : Int) : shifted up n =
    if 0 < clamp (n + stride up) then clamp (n + stride up) else 6 := by
  cases up <;> rfl

theorem clamp_le (n : Int) : clamp n ≤ Claim.maxChainLength :=
  max_le (by decide) (min_le_left _ n)

theorem shifted_pos (up : Bool) (n : Int) : 0 < shifted up n := by
  rw [shifted_eq]
  split_ifs with h
  · exact h
  · decide

theorem shifted_le (up : Bool) (n : Int) : shifted up n ≤ Claim.maxChainLength := by
  rw [shifted_eq]
  split_ifs
  · exact clamp_le _
  · decide

theorem isChainLength_shifted (up : Bool) (n : Int) :
    Claim.isChainLength (shifted up n) = true := by
  have hmin : Claim.minChainLength ≤ 0 := by decide
  have hlo := hmin.trans (shifted_pos up n).le
  simp [Claim.isChainLength, hlo, shifted_le up n]

/-- Only at the very top does a shift stay where it is. -/
theorem shifted_eq_self {up : Bool} {n : Int} :
    shifted up n = n ↔ n = Claim.maxChainLength ∧ up = true := by
  have hlo : Claim.minChainLength ≤ 0 := by decide
  have hhi : 9 ≤ Claim.maxChainLength := by decide
  rw [shifted_eq, clamp]
  cases up with
  | true =>
    simp only [stride, ↓reduceIte, and_true]
    split_ifs <;> omega
  | false =>
    simp only [stride, Bool.false_eq_true, ↓reduceIte, and_false, iff_false]
    split_ifs <;> omega

/-- Below the top nothing is cut off, and what is cut off at the bottom is not positive. -/
theorem shifted_of_room (up : Bool) {n : Int} (hn : n ≤ Claim.maxChainLength - 3) :
    shifted up n = if 0 < n + stride up then n + stride up else 6 := by
  have hlo : Claim.minChainLength ≤ 0 := by decide
  have hstride : stride up ≤ 3 := by cases up <;> decide
  rw [shifted_eq, clamp]
  split_ifs <;> omega

theorem dvd_shifted {n : Int} (h : 3 ∣ n) (up : Bool) (hn : n ≤ Claim.maxChainLength - 3) :
    3 ∣ shifted up n := by
  have hstride : 3 ∣ stride up := by cases up <;> decide
  rw [shifted_of_room up hn]
  split_ifs
  · exact dvd_add h hstride
  · decide

-- Up from the last whole instance nothing but the top is left.
example : 3 ∣ Claim.maxChainLength - 1 ∧ ¬ 3 ∣ shifted true (Claim.maxChainLength - 1) := by decide

/-- A length that can stand in a claim instead of `n`: of whole instances, and another one. -/
structure Replaces (n m : Int) : Prop where
  positive : 0 < m
  whole : 3 ∣ m
  moved : m ≠ n

/-- One shift keeps whole instances and moves. -/
theorem replaces_shifted {n : Int} (h : 3 ∣ n) (up : Bool) (hn : n ≤ Claim.maxChainLength - 3) :
    Replaces n (shifted up n) where
  positive := shifted_pos up n
  whole := dvd_shifted h up hn
  moved := by
    intro he
    have htop := (shifted_eq_self.mp he).1
    omega

/-- The length after a number of shifts, and the source after them. -/
def shiftTimes (n : Int) (s : σ) : Nat → Int × σ
  | 0 => (n, s)
  | count + 1 => shiftChainLength (shiftTimes n s count).1 (shiftTimes n s count).2

theorem shiftTimes_succ (n : Int) (s : σ) (count : Nat) :
    (shiftTimes n s (count + 1)).1 =
      shifted (Random.coin (shiftTimes n s count).2).1 (shiftTimes n s count).1 := rfl

/-- What one shift keeps, any number of them keeps that come upon no length near the top. -/
theorem dvd_shiftTimes {n : Int} (h : 3 ∣ n) (s : σ) {count : Nat}
    (hroom : ∀ j < count, (shiftTimes n s j).1 ≤ Claim.maxChainLength - 3) :
    3 ∣ (shiftTimes n s count).1 := by
  induction count with
  | zero => exact h
  | succ count ih =>
    rw [shiftTimes_succ]
    refine dvd_shifted (ih fun j hj => hroom j (Nat.lt_succ_of_lt hj)) _ ?_
    exact hroom count (Nat.lt_succ_self count)

theorem replaces_shiftTimes {n : Int} (h : 3 ∣ n) (s : σ) {count : Nat}
    (hroom : ∀ j ≤ count, (shiftTimes n s j).1 ≤ Claim.maxChainLength - 3) :
    Replaces (shiftTimes n s count).1 (shiftTimes n s (count + 1)).1 := by
  rw [shiftTimes_succ]
  refine replaces_shifted (dvd_shiftTimes h s fun j hj => hroom j hj.le) _ ?_
  exact hroom count le_rfl

/-- A word from the half of its range that is drawn as the sign. -/
def signWord (up : Bool) : UInt64 := if up then 0 else 0x8000000000000000

theorem source_shiftTimes (n : Int) (s : WordCycle) (count : Nat) :
    (shiftTimes n s count).2 = ⟨s.words, s.position + count⟩ := by
  induction count with
  | zero => rfl
  | succ count ih =>
    rw [shiftTimes, shiftChainLength, Random.coin, ih]
    rfl

/-- Every sequence of signs is drawn from some source. -/
theorem exists_source_signs (n : Int) (signs : List Bool) : ∃ s : WordCycle,
    ∀ j (hj : j < signs.length), (Random.coin (shiftTimes n s j).2).1 = signs[j] := by
  refine ⟨WordCycle.ofWords (signs.map signWord), fun j hj => ?_⟩
  have hword : (WordCycle.mk (signs.map signWord) j).wordAt j = signWord signs[j] :=
    WordCycle.wordAt_of_getElem? (by simp [hj])
  have hcoin (up : Bool) : decide ((signWord up).toNat < 2 ^ 63) = up := by cases up <;> decide
  rw [source_shiftTimes, WordCycle.ofWords, Nat.zero_add, ← hcoin signs[j], ← hword]
  rfl

/-- A shift gives a length that may be claimed and is another one, except at the very top. From
whole instances it goes three up or three down, or to six where that is not positive, and so do any
number of shifts that come upon no length near the top; their signs may be any. -/
theorem shiftChainLength_stays_whole (n : Int) :
    (∀ s : σ, 0 < (shiftChainLength n s).1 ∧
      Claim.isChainLength (shiftChainLength n s).1 = true ∧
      ((shiftChainLength n s).1 = n ↔ n = Claim.maxChainLength ∧ (Random.coin s).1 = true)) ∧
    (3 ∣ n → n ≤ Claim.maxChainLength - 3 → ∀ s : σ, 3 ∣ (shiftChainLength n s).1 ∧
      (shiftChainLength n s).1 =
        if 0 < n + stride (Random.coin s).1 then n + stride (Random.coin s).1 else 6) ∧
    (3 ∣ n → ∀ (s : σ) (count : Nat),
      (∀ j ≤ count, (shiftTimes n s j).1 ≤ Claim.maxChainLength - 3) →
        Replaces (shiftTimes n s count).1 (shiftTimes n s (count + 1)).1) ∧
    ∀ signs : List Bool, ∃ s : WordCycle, ∀ j (hj : j < signs.length),
      (Random.coin (shiftTimes n s j).2).1 = signs[j] := by
  refine ⟨fun s => ?_, fun h hn s => ?_, fun h s count => ?_, exists_source_signs n⟩
  · exact ⟨shifted_pos _ n, isChainLength_shifted _ n, shifted_eq_self⟩
  · exact ⟨dvd_shifted h _ hn, shifted_of_room _ hn⟩
  · exact fun hroom => replaces_shiftTimes h s hroom

end ProofTrial.Corruption
