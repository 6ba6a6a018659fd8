import ProofTrial.Schedule
import Mathlib.Data.Nat.Log
import Mathlib.Order.Bounds.Basic
import Mathlib.Tactic

/-! The schedule of a chain, exactly. Doubling reaches the least power of two, the padding factor
times the trace is again a least power of two, and the step list has one fold for each halving of
it. No sum or quotient on the way leaves 64 bits. -/
namespace ProofTrial.Schedule

/-- The powers of two that hold `n`. -/
def powersFrom (n : Nat) : Set Nat := {p | (∃ k, p = 2 ^ k) ∧ n ≤ p}

theorem isLeast_powersFrom (n : Nat) : IsLeast (powersFrom n) (2 ^ Nat.clog 2 n) := by
  refine ⟨⟨⟨_, rfl⟩, Nat.le_pow_clog one_lt_two n⟩, ?_⟩
  rintro p ⟨⟨k, rfl⟩, hk⟩
  exact Nat.pow_le_pow_right two_pos (Nat.clog_le_of_le_pow hk)

theorem doubleTo_two_pow {n fuel j : Nat} (hj : j ≤ Nat.clog 2 n)
    (hf : Nat.clog 2 n ≤ j + fuel) : doubleTo n fuel (2 ^ j) = 2 ^ Nat.clog 2 n := by
  induction fuel generalizing j with
  | zero =>
    obtain rfl : j = Nat.clog 2 n := Nat.le_antisymm hj hf
    rfl
  | succ fuel ih =>
    rw [doubleTo]
    split_ifs with hn
    · obtain rfl : j = Nat.clog 2 n := Nat.le_antisymm hj (Nat.clog_le_of_le_pow hn)
      rfl
    · have hlt : j < Nat.clog 2 n := (Nat.lt_clog_iff_pow_lt one_lt_two).mpr (Nat.not_le.mp hn)
      rw [← Nat.pow_succ']
      exact ih hlt (by omega)

theorem nextPowerOfTwo_eq (n : Nat) : nextPowerOfTwo n = 2 ^ Nat.clog 2 n := by
  have hf : Nat.clog 2 n ≤ 0 + n := by
    rw [Nat.zero_add]
    exact Nat.clog_le_of_le_pow Nat.lt_two_pow_self.le
  exact doubleTo_two_pow (Nat.zero_le _) hf

theorem isPowerOfTwo_two_pow (j : Nat) : isPowerOfTwo (2 ^ j) = true := by
  rw [isPowerOfTwo, nextPowerOfTwo_eq, Nat.clog_pow 2 j one_lt_two]
  simp

theorem countHalvings_two_pow {fuel k : Nat} (h : k ≤ fuel) : countHalvings fuel (2 ^ k) = k := by
  induction fuel generalizing k with
  | zero =>
    obtain rfl : k = 0 := Nat.le_zero.mp h
    rfl
  | succ fuel ih =>
    cases k with
    | zero => rfl
    | succ k =>
      have hd : 2 ^ (k + 1) % 2 = 0 ∧ 2 ^ (k + 1) / 2 = 2 ^ k := by
        rw [Nat.pow_succ]
        omega
      rw [countHalvings, if_pos hd.1, hd.2, ih (Nat.le_of_succ_le_succ h)]

theorem partsFor_le_iff {rows size n : Nat} (h : 0 < size) :
    partsFor rows size ≤ n ↔ rows ≤ size * n := by
  rw [partsFor, Nat.div_le_iff_le_mul_add_pred h]
  omega

/-- Rounding up to parts of `2 ^ j` rows takes `j` halvings away. -/
theorem clog_partsFor (rows j : Nat) :
    Nat.clog 2 (partsFor rows (2 ^ j)) = Nat.clog 2 rows - j := by
  -- Both sides have the same upper bounds, since rounding up commutes with comparing to a power.
  apply eq_of_forall_ge_iff
  intro k
  rw [Nat.clog_le_iff_le_pow one_lt_two, partsFor_le_iff (Nat.two_pow_pos j), ← Nat.pow_add,
    ← Nat.clog_le_iff_le_pow one_lt_two]
  omega

/-- The padded trace is the least power of two that holds its rows. -/
theorem slackness_mul (j queries : Nat) :
    slackness (2 ^ j) queries * 2 ^ j = 2 ^ Nat.clog 2 (paddedRows (2 ^ j) queries) := by
  have hj : j ≤ Nat.clog 2 (paddedRows (2 ^ j) queries) := by
    have hm := Nat.clog_mono_right 2 (show 2 ^ j ≤ paddedRows (2 ^ j) queries by
      unfold paddedRows
      omega)
    rwa [Nat.clog_pow 2 j one_lt_two] at hm
  rw [slackness, nextPowerOfTwo_eq, clog_partsFor, ← Nat.pow_add, Nat.sub_add_cancel hj]

/-- Halvings of the padded trace. -/
def foldsOf (j queries : Nat) (zeroKnowledge : Bool) : Nat :=
  if zeroKnowledge then Nat.clog 2 (paddedRows (2 ^ j) queries) else j

/-- Parameters with the given number of folds. -/
def withFolds (queries : Nat) (zeroKnowledge : Bool) (folds : Nat) : ProverParameters where
  logCosets := logCosets
  zeroKnowledge := zeroKnowledge
  fri := ⟨lastLayerDegreeBound, queries, 0 :: List.replicate folds 1, proofOfWorkBits⟩

theorem padded_eq (j queries : Nat) (zk : Bool) :
    (if zk then slackness (2 ^ j) queries else 1) * 2 ^ j = 2 ^ foldsOf j queries zk := by
  cases zk with
  | false => exact Nat.one_mul _
  | true => exact slackness_mul j queries

theorem ofTraceLength_two_pow (j : Nat) {queries : Nat} (hq : 0 < queries) (zk : Bool) :
    ofTraceLength (2 ^ j) queries zk =
      if foldsOf j queries zk < 64 then .ok (withFolds queries zk (foldsOf j queries zk))
      else .error (.invalidParameter (.paddedTraceOverflow (2 ^ j))) := by
  have hlimit : 2 ^ foldsOf j queries zk < lengthLimit ↔ foldsOf j queries zk < 64 :=
    Nat.pow_lt_pow_iff_right one_lt_two
  simp only [ofTraceLength, isPowerOfTwo_two_pow, Bool.not_true, Bool.false_eq_true, ↓reduceIte,
    hq.ne', padded_eq, hlimit]
  split_ifs with hf
  · rw [halvings, countHalvings_two_pow hf.le]
    rfl
  · rfl

/-- What has a schedule: whole instances, at least one query, and rows that leave room for the
padding below the limit. -/
structure Schedulable (chainLength airHeight hashesPerInstance queries : Nat)
    (zeroKnowledge : Bool) : Prop where
  hashes : 0 < hashesPerInstance
  chain : 0 < chainLength ∧ hashesPerInstance ∣ chainLength
  height : 0 < airHeight
  queried : 0 < queries
  rows : chainLength / hashesPerInstance * airHeight ≤ if zeroKnowledge then 2 ^ 62 else 2 ^ 63

/-- Parameters that fold a trace of at least `rows` rows down to nothing, after padding it for the
queries under zero knowledge. -/
structure Folded (rows queries : Nat) (zeroKnowledge : Bool) (p : ProverParameters) : Prop where
  steps : ∃ trace folds, IsLeast (powersFrom rows) trace ∧
    (if zeroKnowledge then IsLeast (powersFrom (trace + queries + 2)) (2 ^ folds)
      else 2 ^ folds = trace) ∧
    p.fri.stepList = 0 :: List.replicate folds 1
  queries : p.fri.queries = queries
  zeroKnowledge : p.zeroKnowledge = zeroKnowledge

/-- Every number on the way to the padding factor of a trace has 64 bits. -/
structure PaddingFits (trace queries : Nat) : Prop where
  divisor : 0 < trace
  rows : paddedRows trace queries < lengthLimit
  quotient : paddedRows trace queries / trace + 1 < lengthLimit
  parts : partsFor (paddedRows trace queries) trace ≤ paddedRows trace queries / trace + 1
  factor : slackness trace queries < lengthLimit

theorem folded_withFolds (rows queries : Nat) (zk : Bool) :
    Folded rows queries zk (withFolds queries zk (foldsOf (Nat.clog 2 rows) queries zk)) := by
  refine ⟨⟨_, _, isLeast_powersFrom rows, ?_, rfl⟩, rfl, rfl⟩
  cases zk with
  | false => rfl
  | true => exact isLeast_powersFrom _

theorem paddingFits_two_pow {j queries : Nat} (hj : j ≤ 63) (hq : queries < 2 ^ 32) :
    PaddingFits (2 ^ j) queries := by
  have hpos := Nat.two_pow_pos j
  have hle : 2 ^ j ≤ 2 ^ 63 := Nat.pow_le_pow_right two_pos hj
  have hrows : paddedRows (2 ^ j) queries < lengthLimit := by
    unfold paddedRows lengthLimit
    omega
  have hparts : partsFor (paddedRows (2 ^ j) queries) (2 ^ j) ≤ 2 ^ 33 := by
    have hmul := Nat.mul_le_mul_right (queries + 2) hpos
    rw [partsFor_le_iff hpos]
    unfold paddedRows
    omega
  refine ⟨hpos, hrows, ?_, ?_, ?_⟩
  · have hdiv : paddedRows (2 ^ j) queries / 2 ^ j ≤
        partsFor (paddedRows (2 ^ j) queries) (2 ^ j) := Nat.div_le_div_right (Nat.le_add_right _ _)
    unfold lengthLimit
    omega
  · rw [partsFor_le_iff hpos]
    exact (Nat.lt_mul_div_succ _ hpos).le
  · rw [slackness, nextPowerOfTwo_eq]
    have hclog : Nat.clog 2 (partsFor (paddedRows (2 ^ j) queries) (2 ^ j)) ≤ 33 :=
      Nat.clog_le_of_le_pow hparts
    exact Nat.pow_lt_pow_right one_lt_two (by omega)

/-- Without zero knowledge all traces below the limit fold, with it only those of half of it: the
queries never take a trace beyond its double. -/
theorem foldsOf_lt_iff {rows queries : Nat} {zk : Bool} (hq : queries < 2 ^ 32)
    (hr : rows ≤ 2 ^ 63) :
    foldsOf (Nat.clog 2 rows) queries zk < 64 ↔ rows ≤ if zk then 2 ^ 62 else 2 ^ 63 := by
  have hj : Nat.clog 2 rows ≤ 63 := Nat.clog_le_of_le_pow hr
  cases zk with
  | false => exact ⟨fun _ => hr, fun _ => Nat.lt_succ_of_le hj⟩
  | true =>
    have hfolds : foldsOf (Nat.clog 2 rows) queries true < 64 ↔
        2 ^ Nat.clog 2 rows + queries + 2 ≤ 2 ^ 63 := by
      rw [foldsOf, if_pos rfl, Nat.lt_succ_iff, Nat.clog_le_iff_le_pow one_lt_two, paddedRows]
    have hhalf : rows ≤ 2 ^ 62 ↔ Nat.clog 2 rows ≤ 62 :=
      (Nat.clog_le_iff_le_pow one_lt_two).symm
    rw [hfolds, if_pos rfl, hhalf]
    -- A trace of `2 ^ 63` rows leaves no room at all, one of `2 ^ 62` more than the queries take.
    constructor
    · intro h
      have hlt : 2 ^ Nat.clog 2 rows < 2 ^ 63 := by omega
      exact Nat.le_of_lt_succ ((Nat.pow_lt_pow_iff_right one_lt_two).mp hlt)
    · intro h
      have hle : 2 ^ Nat.clog 2 rows ≤ 2 ^ 62 := Nat.pow_le_pow_right two_pos h
      omega

/-- The trace of whole instances is the least power of two that holds their rows, if there is one
below the limit. -/
theorem traceLength_eq {c a h : Nat} (hh : 0 < h) (hc : 0 < c ∧ h ∣ c) (ha : 0 < a) :
    traceLength c a h = if c / h * a ≤ 2 ^ 63 then .ok (2 ^ Nat.clog 2 (c / h * a))
      else .error (.invalidParameter (.traceOverflow c)) := by
  have hrest : ¬ (c = 0 ∨ c % h ≠ 0) := by
    rw [not_or, not_not]
    exact ⟨hc.1.ne', Nat.mod_eq_zero_of_dvd hc.2⟩
  rw [traceLength, checkChainLength, if_neg hh.ne', if_neg hrest, ← nextPowerOfTwo_eq]
  exact if_neg ha.ne'

theorem traceLength_refused {c a h : Nat} (hno : ¬ (0 < h ∧ (0 < c ∧ h ∣ c) ∧ 0 < a)) :
    ∃ f, traceLength c a h = .error (.invalidParameter f) := by
  unfold traceLength checkChainLength
  by_cases hh : h = 0
  · exact ⟨_, by rw [if_pos hh]; rfl⟩
  by_cases hc : c = 0 ∨ c % h ≠ 0
  · exact ⟨_, by rw [if_neg hh, if_pos hc]; rfl⟩
  by_cases ha : a = 0
  · exact ⟨_, by rw [if_neg hh, if_neg hc]; exact if_pos ha⟩
  · rw [not_or, not_not] at hc
    exact absurd ⟨Nat.pos_of_ne_zero hh, ⟨Nat.pos_of_ne_zero hc.1, Nat.dvd_of_mod_eq_zero hc.2⟩,
      Nat.pos_of_ne_zero ha⟩ hno

/-- All traces that come to be leave room for the numbers of their padding. -/
theorem paddingFits_of_traceLength {c a h queries trace : Nat} (hq : queries < 2 ^ 32)
    (ht : traceLength c a h = .ok trace) : PaddingFits trace queries := by
  by_cases hguard : 0 < h ∧ (0 < c ∧ h ∣ c) ∧ 0 < a
  · rw [traceLength_eq hguard.1 hguard.2.1 hguard.2.2] at ht
    split_ifs at ht with hr
    obtain rfl := Except.ok.inj ht
    exact paddingFits_two_pow (Nat.clog_le_of_le_pow hr) hq
  · obtain ⟨f, hf⟩ := traceLength_refused hguard
    rw [hf] at ht
    contradiction

theorem ofChainLength_of_schedulable {c a h queries : Nat} {zk : Bool} (hq : queries < 2 ^ 32)
    (hs : Schedulable c a h queries zk) :
    ∃ p, ofChainLength c a h queries zk = .ok p ∧ Folded (c / h * a) queries zk p := by
  have hr : c / h * a ≤ 2 ^ 63 := hs.rows.trans (by cases zk <;> decide)
  have hf := (foldsOf_lt_iff hq hr).mpr hs.rows
  refine ⟨_, ?_, folded_withFolds (c / h * a) queries zk⟩
  rw [ofChainLength, traceLength_eq hs.hashes hs.chain hs.height, if_pos hr]
  exact (ofTraceLength_two_pow _ hs.queried zk).trans (if_pos hf)

theorem ofChainLength_of_not_schedulable {c a h queries : Nat} {zk : Bool} (hq : queries < 2 ^ 32)
    (hs : ¬ Schedulable c a h queries zk) :
    ∃ f, ofChainLength c a h queries zk = .error (.invalidParameter f) := by
  unfold ofChainLength
  by_cases hguard : 0 < h ∧ (0 < c ∧ h ∣ c) ∧ 0 < a
  · obtain ⟨hh, hc, ha⟩ := hguard
    rw [traceLength_eq hh hc ha]
    split_ifs with hr
    · by_cases hn : queries = 0
      · refine ⟨.queriesZero, ?_⟩
        simp [bind, Except.bind, ofTraceLength, isPowerOfTwo_two_pow, hn]
      · have hn := Nat.pos_of_ne_zero hn
        have hf : ¬ foldsOf (Nat.clog 2 (c / h * a)) queries zk < 64 := fun hf =>
          hs ⟨hh, hc, ha, hn, (foldsOf_lt_iff hq hr).mp hf⟩
        exact ⟨_, (ofTraceLength_two_pow _ hn zk).trans (if_neg hf)⟩
    · exact ⟨_, rfl⟩
  · obtain ⟨f, hf⟩ := traceLength_refused hguard
    rw [hf]
    exact ⟨f, rfl⟩

/-- A chain of 64-bit numbers with 32-bit queries has a schedule exactly when it is schedulable,
and the schedule pads and folds as little as it can. -/
theorem ofChainLength_folds_least (chainLength airHeight hashes : UInt64) (queries : UInt32)
    (zk : Bool) :
    (Schedulable chainLength.toNat airHeight.toNat hashes.toNat queries.toNat zk →
      ∃ p, ofChainLength chainLength.toNat airHeight.toNat hashes.toNat queries.toNat zk = .ok p ∧
        Folded (chainLength.toNat / hashes.toNat * airHeight.toNat) queries.toNat zk p) ∧
    (¬ Schedulable chainLength.toNat airHeight.toNat hashes.toNat queries.toNat zk →
      ∃ f, ofChainLength chainLength.toNat airHeight.toNat hashes.toNat queries.toNat zk =
        .error (.invalidParameter f)) ∧
    ∀ trace, traceLength chainLength.toNat airHeight.toNat hashes.toNat = .ok trace →
      PaddingFits trace queries.toNat := by
  have hq : queries.toNat < 2 ^ 32 := queries.toNat_lt
  refine ⟨ofChainLength_of_schedulable hq, ofChainLength_of_not_schedulable hq, ?_⟩
  intro trace ht
  exact paddingFits_of_traceLength hq ht

/-- Thirty queries and two rows more fill the double of 32 rows exactly. -/
example : (ofChainLength 3 32 3 30 true).map (·.fri.stepList) =
    .ok [0, 1, 1, 1, 1, 1, 1] := by decide

end ProofTrial.Schedule
