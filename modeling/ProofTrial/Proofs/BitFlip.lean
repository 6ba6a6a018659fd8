import ProofTrial.Power
import Mathlib.Data.Nat.Bitwise
import Mathlib.Data.Nat.ModEq

/-! One bit of a number turned over. The new number differs in that bit alone, lies a power of two
above or below the old one, and so is congruent to it modulo no number above that power. -/
namespace ProofTrial

theorem xor_two_pow_ne (n bit : Nat) : n ^^^ 2 ^ bit ≠ n := by
  intro h
  have hz : n ^^^ 2 ^ bit = n ^^^ 0 := by rw [h, Nat.xor_zero]
  exact (Nat.two_pow_pos bit).ne' (Nat.xor_right_inj.mp hz)

theorem testBit_xor_two_pow (n bit k : Nat) :
    n.testBit k ≠ (n ^^^ 2 ^ bit).testBit k ↔ k = bit := by
  rw [Nat.testBit_xor, Nat.testBit_two_pow]
  by_cases hk : bit = k
  · simp [hk]
  · simp [hk, Ne.symm hk]

/-- The bit is added where it was clear and taken off where it was set. -/
theorem xor_two_pow_cases (n bit : Nat) :
    n ^^^ 2 ^ bit = n + 2 ^ bit ∨ n = (n ^^^ 2 ^ bit) + 2 ^ bit := by
  have hdiv : (n ^^^ 2 ^ bit) / 2 ^ bit = n / 2 ^ bit ^^^ 1 := by
    rw [Nat.xor_div_two_pow, Nat.div_self (Nat.two_pow_pos bit)]
  have hmod : (n ^^^ 2 ^ bit) % 2 ^ bit = n % 2 ^ bit := by
    rw [Nat.xor_mod_two_pow, Nat.mod_self, Nat.xor_zero]
  have hold := Nat.div_add_mod n (2 ^ bit)
  have hnew := Nat.div_add_mod (n ^^^ 2 ^ bit) (2 ^ bit)
  rw [hdiv, hmod] at hnew
  rcases Nat.even_or_odd (n / 2 ^ bit) with heven | hodd
  · left
    rw [Nat.xor_one_of_even heven, Nat.mul_add, Nat.mul_one] at hnew
    omega
  · right
    have hpos : 0 < n / 2 ^ bit := Nat.pos_of_ne_zero fun hz => by simp [hz] at hodd
    have hle : 2 ^ bit ≤ 2 ^ bit * (n / 2 ^ bit) := Nat.le_mul_of_pos_right _ hpos
    rw [Nat.xor_one_of_odd hodd, Nat.mul_sub, Nat.mul_one] at hnew
    omega

theorem xor_two_pow_not_modEq {bit m : Nat} (h : 2 ^ bit < m) (n : Nat) :
    ¬ n ^^^ 2 ^ bit ≡ n [MOD m] := by
  intro hmod
  have hzero : 2 ^ bit ≡ 0 [MOD m] := by
    rcases xor_two_pow_cases n bit with hc | hc
    · rw [hc] at hmod
      exact Nat.ModEq.add_left_cancel' n hmod
    · have hsum : (n ^^^ 2 ^ bit) + 2 ^ bit ≡ n ^^^ 2 ^ bit [MOD m] := hc ▸ hmod.symm
      exact Nat.ModEq.add_left_cancel' _ hsum
  have hdvd := (Nat.modEq_zero_iff_dvd).mp hzero
  exact absurd (Nat.le_of_dvd (Nat.two_pow_pos bit) hdvd) (Nat.not_le.mpr h)

end ProofTrial
