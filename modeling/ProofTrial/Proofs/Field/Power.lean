import ProofTrial.Field
import Mathlib.Data.Nat.ModEq
import Mathlib.Tactic

/-! Powers modulo the prime, turn by turn. A turn takes one binary digit off the exponent and keeps
what result and base stand for; no turn multiplies more than two numbers below the prime, and a
loop has no more turns than its exponent has binary digits. -/
namespace ProofTrial.Field

theorem mul_modEq (a b : Nat) : mul a b ≡ a * b [MOD prime] := Nat.mod_modEq _ _

/-- What the loop for a power holds between two turns. -/
structure Squaring where
  result : Nat
  base : Nat
  exponent : Nat

namespace Squaring

def start (base exponent : Nat) : Squaring := ⟨1, base % prime, exponent⟩

def turn (s : Squaring) : Squaring where
  result := if s.exponent % 2 = 1 then mul s.result s.base else s.result
  base := mul s.base s.base
  exponent := s.exponent / 2

/-- The pairs that a turn multiplies, before the products are reduced. -/
def factors (s : Squaring) : List (Nat × Nat) :=
  if s.exponent % 2 = 1 then [(s.result, s.base), (s.base, s.base)] else [(s.base, s.base)]

/-- The loop stands at a state after a number of turns, each of which found digits left. -/
inductive After (s : Squaring) : Nat → Squaring → Prop where
  | start : After s 0 s
  | turn {n : Nat} {t : Squaring} (before : After s n t) (more : t.exponent ≠ 0) :
      After s (n + 1) t.turn

/-- A state on the way to a power. The loop goes on from it to the power's value. -/
structure Approaches (base exponent : Nat) (s : Squaring) : Prop where
  result_lt : s.result < prime
  base_lt : s.base < prime
  power : s.result * s.base ^ s.exponent ≡ base ^ exponent [MOD prime]
  outcome : powLoop s.result s.base s.exponent = pow base exponent

theorem powLoop_turn {s : Squaring} (h : s.exponent ≠ 0) :
    powLoop s.turn.result s.turn.base s.turn.exponent = powLoop s.result s.base s.exponent := by
  rw [powLoop.eq_def s.result, dif_neg h]
  rfl

/-- What a turn takes into the result for the digit it takes off the exponent. -/
theorem turn_result_modEq (s : Squaring) :
    s.turn.result ≡ s.result * s.base ^ (s.exponent % 2) [MOD prime] := by
  rcases Nat.mod_two_eq_zero_or_one s.exponent with h | h
  · rw [turn, h, if_neg Nat.zero_ne_one, Nat.pow_zero, Nat.mul_one]
  · rw [turn, h, if_pos rfl, Nat.pow_one]
    exact mul_modEq s.result s.base

theorem turn_power_modEq (s : Squaring) :
    s.turn.result * s.turn.base ^ s.turn.exponent ≡ s.result * s.base ^ s.exponent [MOD prime] := by
  calc s.turn.result * s.turn.base ^ s.turn.exponent
      ≡ s.result * s.base ^ (s.exponent % 2) * (s.base * s.base) ^ (s.exponent / 2) [MOD prime] :=
        s.turn_result_modEq.mul ((mul_modEq s.base s.base).pow (s.exponent / 2))
    _ = s.result * s.base ^ (s.exponent % 2 + 2 * (s.exponent / 2)) := by ring
    _ = s.result * s.base ^ s.exponent := by rw [Nat.mod_add_div]

variable {base exponent : Nat} {s t : Squaring} {n : Nat}

theorem approaches_start (base exponent : Nat) : Approaches base exponent (start base exponent) where
  result_lt := show 1 < prime by decide
  base_lt := Nat.mod_lt base prime_pos
  power := by
    rw [start, Nat.one_mul]
    exact (Nat.mod_modEq base prime).pow exponent
  outcome := rfl

theorem Approaches.turn (h : Approaches base exponent s) (more : s.exponent ≠ 0) :
    Approaches base exponent s.turn where
  result_lt := by
    rw [Squaring.turn]
    split_ifs
    · exact mul_lt_prime _ _
    · exact h.result_lt
  base_lt := mul_lt_prime _ _
  power := s.turn_power_modEq.trans h.power
  outcome := (powLoop_turn more).trans h.outcome

theorem Approaches.after (h : Approaches base exponent s) (hr : After s n t) :
    Approaches base exponent t := by
  induction hr with
  | start => exact h
  | turn before more ih => exact ih.turn more

/-- The square of the prime leaves bits to spare. -/
theorem Approaches.product_lt (h : Approaches base exponent s) :
    ∀ p ∈ s.factors, p.1 * p.2 < 2 ^ 128 := by
  have hsquare : prime * prime ≤ 2 ^ 128 := by decide
  have hresult := (Nat.mul_lt_mul'' h.result_lt h.base_lt).trans_le hsquare
  have hbase := (Nat.mul_lt_mul'' h.base_lt h.base_lt).trans_le hsquare
  rw [factors]
  split_ifs <;> simp [hresult, hbase]

/-- Without digits left the result is the power. -/
theorem Approaches.result_eq (h : Approaches base exponent s) (hs : s.exponent = 0) :
    s.result = pow base exponent ∧ s.result = base ^ exponent % prime := by
  have hout := h.outcome
  have hpow := h.power
  rw [hs, powLoop, dif_pos rfl] at hout
  rw [hs, Nat.pow_zero, Nat.mul_one] at hpow
  exact ⟨hout, Nat.ModEq.eq_of_lt_of_lt (hpow.trans (Nat.mod_modEq _ _).symm) h.result_lt
    (Nat.mod_lt _ prime_pos)⟩

theorem After.exponent_eq (h : After s n t) : t.exponent = s.exponent / 2 ^ n := by
  induction h with
  | start => rw [Nat.pow_zero, Nat.div_one]
  | turn before more ih => rw [Squaring.turn, ih, Nat.div_div_eq_div_mul, Nat.pow_succ]

/-- Each turn needs a binary digit. -/
theorem After.le_digits (h : After s n t) {k : Nat} (hk : s.exponent < 2 ^ k) : n ≤ k := by
  cases h with
  | start => exact Nat.zero_le k
  | turn before more =>
    rw [before.exponent_eq, Nat.div_ne_zero_iff] at more
    exact (Nat.pow_lt_pow_iff_right (by decide)).mp (more.2.trans_lt hk)

/-- The loop stops, or it makes any number of turns. -/
theorem exists_after (s : Squaring) (k : Nat) :
    ∃ n t, After s n t ∧ (t.exponent = 0 ∨ n = k) := by
  induction k with
  | zero => exact ⟨0, s, .start, .inr rfl⟩
  | succ k ih =>
    obtain ⟨n, t, ht, hstop | rfl⟩ := ih
    · exact ⟨n, t, ht, .inl hstop⟩
    · by_cases hmore : t.exponent = 0
      · exact ⟨n, t, ht, .inl hmore⟩
      · exact ⟨n + 1, t.turn, ht.turn hmore, .inr rfl⟩

theorem exists_last (s : Squaring) : ∃ n t, After s n t ∧ t.exponent = 0 := by
  obtain ⟨n, t, ht, hstop | rfl⟩ := exists_after s s.exponent
  · exact ⟨n, t, ht, hstop⟩
  · refine ⟨_, t, ht, ?_⟩
    rw [ht.exponent_eq, Nat.div_eq_of_lt Nat.lt_two_pow_self]

end Squaring

theorem pow_eq_mod (base exponent : Nat) : pow base exponent = base ^ exponent % prime := by
  obtain ⟨n, t, ht, hstop⟩ := (Squaring.start base exponent).exists_last
  obtain ⟨hpow, hmod⟩ := ((Squaring.approaches_start base exponent).after ht).result_eq hstop
  rw [← hpow, hmod]

theorem pow_modEq (base exponent : Nat) : pow base exponent ≡ base ^ exponent [MOD prime] := by
  rw [pow_eq_mod]
  exact Nat.mod_modEq _ _

open Squaring in
/-- The loop for a power ends, within as many turns as the exponent has binary digits, at the power
modulo the prime. In every turn the numbers it holds stay below the prime and on the way to that
power, and the products fit 128 bits. Powers of a sum are products of powers. -/
theorem pow_squares_and_multiplies (base exponent : Nat) :
    (∃ turns last, After (start base exponent) turns last ∧ last.exponent = 0 ∧
      last.result = pow base exponent ∧ ∀ digits, exponent < 2 ^ digits → turns ≤ digits) ∧
    (∀ turns s, After (start base exponent) turns s →
      Approaches base exponent s ∧ ∀ p ∈ s.factors, p.1 * p.2 < 2 ^ 128) ∧
    pow base exponent = base ^ exponent % prime ∧
    pow base exponent < prime ∧
    pow base 0 = 1 ∧
    ∀ m n, pow base (m + n) = mul (pow base m) (pow base n) := by
  have hstart := approaches_start base exponent
  refine ⟨?_, fun turns s hs => ⟨hstart.after hs, (hstart.after hs).product_lt⟩,
    pow_eq_mod base exponent, ?_, ?_, fun m n => ?_⟩
  · obtain ⟨turns, last, hlast, hstop⟩ := (start base exponent).exists_last
    exact ⟨turns, last, hlast, hstop, ((hstart.after hlast).result_eq hstop).1,
      fun digits hd => hlast.le_digits hd⟩
  · rw [pow_eq_mod]
    exact Nat.mod_lt _ prime_pos
  · rw [pow_eq_mod, Nat.pow_zero]
    rfl
  · rw [pow_eq_mod, pow_eq_mod, pow_eq_mod, mul, ← Nat.mul_mod, Nat.pow_add]

end ProofTrial.Field
