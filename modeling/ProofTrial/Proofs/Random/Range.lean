import ProofTrial.Random.Range
import ProofTrial.Random.WordCycle
import Mathlib.Tactic

/-! Draws reach everything below their bound: a number is drawn from the least word that is scaled
to it, whatever words were drawn before. -/
namespace ProofTrial

theorem WordCycle.wordAt_of_getElem? {s : WordCycle} {i : Nat} {w : UInt64}
    (h : s.words[i]? = some w) : s.wordAt i = w := by
  have hi := (List.getElem?_eq_some_iff.mp h).1
  rw [wordAt, Nat.mod_eq_of_lt hi, List.getD_eq_getElem?_getD, h, Option.getD_some]

namespace Random

/-- The least word that is scaled to `i`. -/
def leastWord (bits n i : Nat) : Nat := (i * 2 ^ bits + (n - 1)) / n

section Least

variable {bits n i : Nat} (hi : i < n) (hn : n ≤ 2 ^ bits)
include hi hn

theorem leastWord_lt : leastWord bits n i < 2 ^ bits := by
  have hmul : (i + 1) * 2 ^ bits ≤ n * 2 ^ bits := Nat.mul_le_mul_right _ hi
  rw [Nat.add_mul, Nat.one_mul] at hmul
  rw [leastWord, Nat.div_lt_iff_lt_mul (by omega), Nat.mul_comm _ n]
  omega

theorem scaled_leastWord : scaled bits n (leastWord bits n i) 0 = i := by
  have hpos := Nat.two_pow_pos bits
  have hdiv := Nat.div_add_mod (i * 2 ^ bits + (n - 1)) n
  have hmod := Nat.mod_lt (i * 2 ^ bits + (n - 1)) (Nat.zero_lt_of_lt hi)
  have hprod : leastWord bits n i * n = n * ((i * 2 ^ bits + (n - 1)) / n) := Nat.mul_comm _ _
  rw [scaled, Nat.add_zero, Nat.div_eq_iff hpos]
  omega

end Least

/-- The part of a word that a draw of `bits` bits takes. -/
def lowBits (bits : Nat) (w : UInt64) : Nat := w.toNat % 2 ^ bits

theorem exists_lowBits {bits x : Nat} (hb : bits ≤ 64) (hx : x < 2 ^ bits) :
    ∃ w, lowBits bits w = x := by
  refine ⟨UInt64.ofNat x, ?_⟩
  rw [lowBits, UInt64.toNat_ofNat', Nat.mod_mod_of_dvd x (Nat.pow_dvd_pow 2 hb),
    Nat.mod_eq_of_lt hx]

/-- A draw below `n` from the low bits of one word, or of two where the second could carry. -/
structure Scales (bits n : Nat) (draw : WordCycle → Fin n × WordCycle) : Prop where
  value : ∀ s, (draw s).1.val = scaled bits n (lowBits bits (s.wordAt s.position))
    (if needsCarry bits n (lowBits bits (s.wordAt s.position)) then
      scaled bits n (lowBits bits (s.wordAt (s.position + 1))) 0 else 0)
  rest : ∀ s, (draw s).2 = ⟨s.words, s.position +
    if needsCarry bits n (lowBits bits (s.wordAt s.position)) then 2 else 1⟩

theorem scales_below32 {n : Nat} (h : 0 < n) : Scales 32 n (below32 n h) := by
  have hw (w : UInt64) : w.toUInt32.toNat = lowBits 32 w := UInt64.toNat_toUInt32 w
  constructor
  · intro s
    simp only [below32, RandomSource.word32, hw]
    split_ifs <;> rfl
  · intro s
    simp only [below32, RandomSource.word32, hw]
    split_ifs <;> rfl

theorem scales_below64 {n : Nat} (h : 0 < n) : Scales 64 n (below64 n h) := by
  have hw (w : UInt64) : w.toNat = lowBits 64 w := (Nat.mod_eq_of_lt w.toNat_lt).symm
  constructor
  · intro s
    simp only [below64, RandomSource.word64, hw]
    split_ifs <;> rfl
  · intro s
    simp only [below64, RandomSource.word64, hw]
    split_ifs <;> rfl

/-- Whatever words stand around them, the words `ws` make a draw come to `a` and are spent. -/
def Spends (draw : WordCycle → α × WordCycle) (ws : List UInt64) (a : α) : Prop :=
  ∀ before after, draw ⟨before ++ ws ++ after, before.length⟩ =
    (a, ⟨before ++ ws ++ after, (before ++ ws).length⟩)

/-- The least word for a number comes to it. A zero leaves it at that where a second word is
drawn. -/
theorem Scales.reaches {bits n : Nat} {draw : WordCycle → Fin n × WordCycle}
    (hd : Scales bits n draw) (hb : bits ≤ 64) (hn : n ≤ 2 ^ bits) (i : Fin n) :
    ∃ ws, Spends draw ws i := by
  obtain ⟨w, hw⟩ := exists_lowBits hb (leastWord_lt i.isLt hn)
  have hi : scaled bits n (lowBits bits w) 0 = i := hw ▸ scaled_leastWord i.isLt hn
  by_cases hc : needsCarry bits n (lowBits bits w) = true
  · refine ⟨[w, 0], fun before after => ?_⟩
    have hzero : scaled bits n (lowBits bits 0) 0 = 0 := by simp [scaled, lowBits]
    have hfirst : WordCycle.wordAt ⟨before ++ [w, 0] ++ after, before.length⟩ before.length = w :=
      WordCycle.wordAt_of_getElem? (by simp)
    have hsecond : WordCycle.wordAt ⟨before ++ [w, 0] ++ after, before.length⟩
        (before.length + 1) = 0 := WordCycle.wordAt_of_getElem? (by simp)
    refine Prod.ext (Fin.ext ?_) ?_
    · rw [hd.value, hfirst, hsecond, if_pos hc, hzero, hi]
    · rw [hd.rest, hfirst, if_pos hc]
      simp
  · refine ⟨[w], fun before after => ?_⟩
    have hfirst : WordCycle.wordAt ⟨before ++ [w] ++ after, before.length⟩ before.length = w :=
      WordCycle.wordAt_of_getElem? (by simp)
    refine Prod.ext (Fin.ext ?_) ?_
    · rw [hd.value, hfirst, if_neg hc, hi]
    · rw [hd.rest, hfirst, if_neg hc]
      simp

theorem below32_reaches {n : Nat} (h : 0 < n) (hn : n ≤ 2 ^ 32) (i : Fin n) :
    ∃ ws, Spends (below32 n h) ws i :=
  (scales_below32 h).reaches (by decide) hn i

theorem index_reaches {n : Nat} (h : 0 < n) (hn : n ≤ 2 ^ 64) (i : Fin n) :
    ∃ ws, Spends (index n h) ws i := by
  unfold index
  split_ifs with hlt
  · exact below32_reaches h hlt.le i
  · exact (scales_below64 h).reaches le_rfl hn i

/-- Every place is drawn from some source. -/
theorem exists_source_index {n : Nat} (h : 0 < n) (hn : n ≤ 2 ^ 64) (i : Fin n) :
    ∃ s : WordCycle, (index n h s).1 = i := by
  obtain ⟨ws, hws⟩ := index_reaches h hn i
  exact ⟨_, congrArg Prod.fst (hws [] [])⟩

/-- Every place and every small number after it are drawn from some source. -/
theorem exists_source_index_below32 {n m : Nat} (h : 0 < n) (hn : n ≤ 2 ^ 64) (i : Fin n)
    (hm : 0 < m) (hm32 : m ≤ 2 ^ 32) (j : Fin m) :
    ∃ s : WordCycle, (index n h s).1 = i ∧ (below32 m hm (index n h s).2).1 = j := by
  obtain ⟨us, hus⟩ := index_reaches h hn i
  obtain ⟨ws, hws⟩ := below32_reaches hm hm32 j
  have hi := hus [] (ws ++ [])
  have hj := hws us []
  rw [List.nil_append, ← List.append_assoc] at hi
  refine ⟨_, congrArg Prod.fst hi, ?_⟩
  rw [hi]
  exact congrArg Prod.fst hj

end Random
end ProofTrial
