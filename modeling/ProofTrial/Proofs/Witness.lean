import ProofTrial.Proofs.Field.Text
import ProofTrial.Witness

/-! Witnesses. Their rows are written as words that read as the same rows, a random one has the
length that is asked for or drawn, and nothing but the permutation can keep a chain from its
output. -/
namespace ProofTrial

namespace Permutation

/-- The chain is made up to some row, and the call that takes this row fails. -/
def FailsIn (permute : Permutation) (rows : List Row) (e : Error) : Prop :=
  ∃ done row rest reached, rows = done ++ row :: rest ∧ permute.hashChain done = .ok reached ∧
    permute (reached ++ row) = .error e

theorem absorb_eq_error {permute : Permutation} {state : Row} {rows : List Row} {e : Error}
    (h : absorb permute state rows = .error e) :
    ∃ done row rest reached, rows = done ++ row :: rest ∧ absorb permute state done = .ok reached ∧
      permute (reached ++ row) = .error e := by
  induction rows generalizing state with
  | nil => contradiction
  | cons row rows ih =>
    rw [absorb] at h
    cases hp : permute (state ++ row) with
    | error f =>
      simp only [hp, Except.error.injEq] at h
      exact ⟨[], row, rows, state, rfl, rfl, h ▸ hp⟩
    | ok next =>
      simp only [hp] at h
      obtain ⟨done, last, rest, reached, rfl, hdone, hlast⟩ := ih h
      refine ⟨row :: done, last, rest, reached, rfl, ?_, hlast⟩
      simp only [absorb, hp, hdone]

/-- A chain of at least one row fails only where the permutation does. -/
theorem hashChain_eq_error {permute : Permutation} {rows : List Row} {e : Error}
    (hr : rows ≠ []) (h : permute.hashChain rows = .error e) : permute.FailsIn rows e := by
  cases rows with
  | nil => exact absurd rfl hr
  | cons first rows =>
    obtain ⟨done, row, rest, reached, rfl, hdone, hrow⟩ := absorb_eq_error h
    exact ⟨first :: done, row, rest, reached, rfl, hdone, hrow⟩

theorem hashChain_of_first {permute : Permutation} {a b : Row} {rest : List Row} {e : Error}
    (h : permute (a ++ b) = .error e) : permute.hashChain (a :: b :: rest) = .error e := by
  simp only [hashChain, absorb, h]

end Permutation

namespace Witness

variable {σ : Type} [RandomSource σ]

theorem length_randomRows (n : Nat) (s : σ) : (randomRows n s).1.length = n := by
  induction n generalizing s with
  | zero => rfl
  | succ n ih => rw [randomRows, List.length_cons, ih]

/-- Most hashes of a chain whose length is drawn. -/
def maxRandomLength : Nat := hashesPerInstance * maxRandomInstances

theorem randomChainLength_le (s : σ) : (randomChainLength s).1 ≤ maxRandomLength := by
  have hi := (Random.below64 maxRandomInstances (by decide) s).1.isLt
  unfold randomChainLength maxRandomLength
  exact Nat.mul_le_mul_left hashesPerInstance (by omega)

/-- A row to start from, and one for each hash of whole instances. -/
structure Whole (w : Witness) : Prop where
  positive : 0 < w.chainLength
  instances : hashesPerInstance ∣ w.chainLength

theorem Whole.length_rows {w : Witness} (h : w.Whole) : w.rows.length = w.chainLength + 1 := by
  have hpos := h.positive
  unfold chainLength at hpos ⊢
  omega

theorem Whole.rows_ne_nil {w : Witness} (h : w.Whole) : w.rows ≠ [] :=
  List.ne_nil_of_length_pos (h.length_rows ▸ Nat.succ_pos _)

/-- There is a first hash. -/
theorem Whole.exists_rows {w : Witness} (h : w.Whole) : ∃ a b rest, w.rows = a :: b :: rest := by
  have hlength := h.length_rows
  have hpos := h.positive
  obtain ⟨_ | ⟨a, _ | ⟨b, rest⟩⟩⟩ := w
  · contradiction
  · exact absurd hpos (lt_irrefl 0)
  · exact ⟨a, b, rest, rfl⟩

theorem checkChainLength_eq_ok {n : Nat} :
    Schedule.checkChainLength n hashesPerInstance = .ok () ↔ 0 < n ∧ hashesPerInstance ∣ n := by
  rw [Schedule.checkChainLength, if_neg (by decide), Nat.pos_iff_ne_zero, Nat.dvd_iff_mod_eq_zero]
  by_cases h : n = 0 ∨ n % hashesPerInstance ≠ 0
  · rw [if_pos h]
    simp only [reduceCtorEq, false_iff]
    tauto
  · rw [if_neg h]
    tauto

theorem readRows_readsEach : ReadsEach Row.ofHex readRows where
  nil := rfl
  cons words rest := by
    rw [readRows]
    cases Row.ofHex words <;> rfl

theorem ofRows_eq_ok {rows : List Row} {w : Witness} :
    ofRows rows = .ok w ↔ w = ⟨rows⟩ ∧ w.Whole := by
  have hc := @checkChainLength_eq_ok (rows.length - 1)
  unfold ofRows
  split
  next e he =>
    rw [he] at hc
    simp only [reduceCtorEq, false_iff, not_and] at hc ⊢
    rintro rfl ⟨hpos, hdvd⟩
    exact hc hpos hdvd
  next he =>
    obtain ⟨hpos, hdvd⟩ := hc.mp he
    rw [Except.ok.injEq]
    constructor
    · rintro rfl
      exact ⟨rfl, hpos, hdvd⟩
    · exact fun h => h.1.symm

theorem ofHexRows_eq_ok {words : List (List String)} {w : Witness} :
    ofHexRows words = .ok w ↔
      List.Forall₂ (fun r row => Row.ofHex r = .ok row) words w.rows ∧ w.Whole := by
  have hr := fun rows => @ReadsEach.eq_ok _ _ _ _ _ readRows_readsEach words rows
  unfold ofHexRows
  cases hw : readRows words with
  | error e =>
    rw [← hr, hw]
    simp
  | ok rows =>
    simp only [ofRows_eq_ok, ← hr, hw, Except.ok.injEq]
    constructor
    · rintro ⟨rfl, h⟩
      exact ⟨rfl, h⟩
    · rintro ⟨rfl, h⟩
      exact ⟨rfl, h⟩

/-- A written witness reads as itself. -/
theorem ofHexRows_toHexRows {w : Witness} (h : w.Whole) : ofHexRows w.toHexRows = .ok w := by
  rw [ofHexRows_eq_ok, toHexRows, List.forall₂_map_left_iff, List.forall₂_same]
  exact ⟨fun row _ => row.ofHex_toHex, h⟩

theorem hasRoom_rows_iff {n : Nat} : hasRoom (n + 1) rowBytes = true ↔ n + 1 < 2 ^ 58 := by
  rw [hasRoom, decide_eq_true_eq, rowBytes, maxListBytes]
  omega

/-- Lengths that do not fill whole instances are refused. -/
theorem random_of_partial {n : Nat} (h : ¬ (0 < n ∧ hashesPerInstance ∣ n)) (s : σ) :
    random n s = (.error (.error (.invalidParameter (.chainLength hashesPerInstance n))), s) := by
  have hbad : n = 0 ∨ n % hashesPerInstance ≠ 0 := by
    rw [Nat.pos_iff_ne_zero, Nat.dvd_iff_mod_eq_zero] at h
    tauto
  rw [random, Schedule.checkChainLength, if_neg (by decide), if_pos hbad]

section Whole

variable {n : Nat} (hn : 0 < n ∧ hashesPerInstance ∣ n)
include hn

theorem random_of_room (hroom : n + 1 < 2 ^ 58) (s : σ) :
    random n s = (.ok ⟨(randomRows (n + 1) s).1⟩, (randomRows (n + 1) s).2) := by
  simp only [random, checkChainLength_eq_ok.mpr hn, if_pos (hasRoom_rows_iff.mpr hroom)]

/-- More rows than any list has cannot be drawn. -/
theorem random_of_no_room (hroom : ¬ n + 1 < 2 ^ 58) (s : σ) :
    random n s = (.error (.crash .capacity), s) := by
  have hfull : ¬ hasRoom (n + 1) rowBytes = true := fun h => hroom (hasRoom_rows_iff.mp h)
  simp only [random, checkChainLength_eq_ok.mpr hn, if_neg hfull]

theorem whole_randomRows (s : σ) : Whole ⟨(randomRows (n + 1) s).1⟩ ∧
    chainLength ⟨(randomRows (n + 1) s).1⟩ = n := by
  have hlength : chainLength ⟨(randomRows (n + 1) s).1⟩ = n :=
    Nat.sub_eq_of_eq_add (length_randomRows (n + 1) s)
  exact ⟨⟨hn.1.trans_eq hlength.symm, hn.2.trans (dvd_of_eq hlength.symm)⟩, hlength⟩

end Whole

theorem whole_randomChainLength (s : σ) :
    0 < (randomChainLength s).1 ∧ hashesPerInstance ∣ (randomChainLength s).1 := by
  simp only [randomChainLength]
  exact ⟨Nat.mul_pos (by decide) (by omega), Nat.dvd_mul_right _ _⟩

/-- A drawn length is one that a random witness has. -/
theorem random_randomChainLength (s : σ) :
    random (randomChainLength s).1 (randomChainLength s).2 = (.ok (drawn s).1, (drawn s).2) := by
  have hle : (randomChainLength s).1 ≤ 96 := randomChainLength_le s
  exact random_of_room (whole_randomChainLength s) (by omega) _

theorem whole_drawn (s : σ) :
    (drawn s).1.Whole ∧ (drawn s).1.chainLength ≤ maxRandomLength := by
  obtain ⟨hwhole, hn⟩ := whole_randomRows (whole_randomChainLength s) (randomChainLength s).2
  exact ⟨hwhole, hn.le.trans (randomChainLength_le s)⟩

end Witness

/-- Without a given length a proof is the one that trials draw. -/
theorem ChainProof.generate_none {σ : Type} [RandomSource σ] (permute : Permutation) (s : σ) :
    generate none permute s = ((ofDrawn permute s).1.mapError .error, (ofDrawn permute s).2) := by
  simp only [generate, Witness.random_randomChainLength, ofDrawn]

end ProofTrial
