import ProofTrial.Proofs.Witness
import ProofTrial.Random.WordCycle

/-! How witnesses come about. They are made of rows, drawn, or read from words, and every one that
is made is whole; the words that read as a witness are found from their number and their texts. -/
namespace ProofTrial.Witness

/-- What the three ways to a witness give. -/
inductive Made : Witness → Prop where
  | ofRows {rows : List Row} {w : Witness} (h : ofRows rows = .ok w) : Made w
  | random {σ : Type} [RandomSource σ] {n : Nat} {s : σ} {w : Witness}
      (h : (random n s).1 = .ok w) : Made w
  | ofHexRows {words : List (List String)} {w : Witness} (h : ofHexRows words = .ok w) : Made w

/-- What drawing a witness of a length comes to. -/
inductive Draws (n : Nat) : Except Failure Witness → Prop where
  | refused {e : Error} (h : ¬ (0 < n ∧ hashesPerInstance ∣ n)) : Draws n (.error (.error e))
  | crashed (h : 0 < n ∧ hashesPerInstance ∣ n) (large : ¬ n + 1 < 2 ^ 58) :
      Draws n (.error (.crash .capacity))
  | drawn {w : Witness} (h : 0 < n ∧ hashesPerInstance ∣ n) (room : n + 1 < 2 ^ 58)
      (whole : w.Whole) (length : w.chainLength = n) : Draws n (.ok w)

theorem draws_random {σ : Type} [RandomSource σ] (n : Nat) (s : σ) : Draws n (random n s).1 := by
  by_cases h : 0 < n ∧ hashesPerInstance ∣ n
  · by_cases hroom : n + 1 < 2 ^ 58
    · obtain ⟨hwhole, hlength⟩ := whole_randomRows h s
      rw [random_of_room h hroom]
      exact .drawn h hroom hwhole hlength
    · rw [random_of_no_room h hroom]
      exact .crashed h hroom
  · rw [random_of_partial h s]
    exact .refused h

theorem whole_of_random {σ : Type} [RandomSource σ] {n : Nat} {s : σ} {w : Witness}
    (h : (random n s).1 = .ok w) : w.Whole ∧ w.chainLength = n := by
  have hd := draws_random n s
  rw [h] at hd
  cases hd with
  | drawn _ _ whole length => exact ⟨whole, length⟩

theorem Made.whole {w : Witness} (h : Made w) : w.Whole := by
  cases h with
  | ofRows h => exact (ofRows_eq_ok.mp h).2
  | random h => exact (whole_of_random h).1
  | ofHexRows h => exact (ofHexRows_eq_ok.mp h).2

section Random

variable {σ : Type} [RandomSource σ] (n : Nat) (s : σ)

theorem exists_random_iff : (∃ w, (random n s).1 = .ok w) ↔
    0 < n ∧ hashesPerInstance ∣ n ∧ n + 1 < 2 ^ 58 := by
  have hd := draws_random n s
  generalize (random n s).1 = r at hd
  cases hd with
  | refused h => exact ⟨fun ⟨_, hw⟩ => (nomatch hw), fun hn => absurd ⟨hn.1, hn.2.1⟩ h⟩
  | crashed h large => exact ⟨fun ⟨_, hw⟩ => (nomatch hw), fun hn => absurd hn.2.2 large⟩
  | drawn h room => exact ⟨fun _ => ⟨h.1, h.2, room⟩, fun _ => ⟨_, rfl⟩⟩

theorem random_crashes_iff : (random n s).1 = .error (.crash .capacity) ↔
    0 < n ∧ hashesPerInstance ∣ n ∧ 2 ^ 58 ≤ n + 1 := by
  have hd := draws_random n s
  generalize (random n s).1 = r at hd
  cases hd with
  | refused h => exact ⟨nofun, fun hn => absurd ⟨hn.1, hn.2.1⟩ h⟩
  | crashed h large => exact ⟨fun _ => ⟨h.1, h.2, Nat.not_lt.mp large⟩, fun _ => rfl⟩
  | drawn h room => exact ⟨nofun, fun hn => absurd room (Nat.not_lt.mpr hn.2.2)⟩

theorem random_refuses_iff : (∃ e, (random n s).1 = .error (.error e)) ↔
    ¬ (0 < n ∧ hashesPerInstance ∣ n) := by
  have hd := draws_random n s
  generalize (random n s).1 = r at hd
  cases hd with
  | refused h => exact ⟨fun _ => h, fun _ => ⟨_, rfl⟩⟩
  | crashed h | drawn h => exact ⟨fun ⟨_, he⟩ => (nomatch he), fun hn => absurd h hn⟩

end Random

/-- One row more than a positive multiple of the hashes in an instance. -/
theorem whole_iff {w : Witness} :
    w.Whole ↔ ∃ k, 1 ≤ k ∧ w.rows.length = hashesPerInstance * k + 1 := by
  constructor
  · intro h
    obtain ⟨k, hk⟩ := h.instances
    have hpos := h.positive
    rw [hk] at hpos
    exact ⟨k, Nat.pos_of_mul_pos_left hpos, by rw [h.length_rows, hk]⟩
  · rintro ⟨k, hk, hrows⟩
    have hn : w.chainLength = hashesPerInstance * k := by
      rw [chainLength, hrows, Nat.add_sub_cancel]
    exact ⟨hn ▸ Nat.mul_pos (by decide) hk, hn ▸ Nat.dvd_mul_right _ _⟩

theorem exists_ofHexRows_iff {words : List (List String)} :
    (∃ w, ofHexRows words = .ok w) ↔
      (∀ r ∈ words, r.length = wordSize ∧ ∀ t ∈ r, ∃ x, Felt.ofHex t = .ok x) ∧
      ∃ k, 1 ≤ k ∧ words.length = hashesPerInstance * k + 1 := by
  have hread : ∀ r : List String, (r.length = wordSize ∧ ∀ t ∈ r, ∃ x, Felt.ofHex t = .ok x) ↔
      ∃ row, Row.ofHex r = .ok row := fun r => Row.exists_ofHexWith_iff.symm
  simp only [ofHexRows_eq_ok, hread, whole_iff]
  rw [← exists_forall₂_iff]
  constructor
  · rintro ⟨w, hrows, hlen⟩
    exact ⟨⟨w.rows, hrows⟩, hrows.length_eq ▸ hlen⟩
  · rintro ⟨⟨rows, hrows⟩, hlen⟩
    exact ⟨⟨rows⟩, hrows, hrows.length_eq ▸ hlen⟩

/-- The words of a witness that was read are those it was read from, each written anew. -/
theorem respelled_toHexRows {words : List (List String)} {w : Witness}
    (h : ofHexRows words = .ok w) :
    List.Forall₂ (List.Forall₂ fun t u => respelled t = .ok u) words w.toHexRows := by
  rw [toHexRows, List.forall₂_map_right_iff]
  exact (ofHexRows_eq_ok.mp h).1.imp fun _ _ => Row.respelled_toHex

/-- A witness has one row more than hashes, of which there are a positive number that fills whole
instances, however it was made. A random one is made for every such number whose rows a list has
room for; where it has not, drawing them crashes, and every other number is refused. Rows of words
read as a witness exactly when they have its shape and all their words are elements. What is written
reads as the same witness, and what is read is written with every word in its one form. -/
theorem made_whole_and_read :
    (∀ w, Made w → 0 < w.chainLength ∧ 3 ∣ w.chainLength ∧
      w.rows.length = w.chainLength + 1) ∧
    (∀ (σ : Type) [RandomSource σ] (n : Nat) (s : σ),
      ((∃ w, (random n s).1 = .ok w) ↔ 0 < n ∧ 3 ∣ n ∧ n + 1 < 2 ^ 58) ∧
      ((random n s).1 = .error (.crash .capacity) ↔ 0 < n ∧ 3 ∣ n ∧ 2 ^ 58 ≤ n + 1) ∧
      ((∃ e, (random n s).1 = .error (.error e)) ↔ ¬ (0 < n ∧ 3 ∣ n)) ∧
      ∀ w, (random n s).1 = .ok w → w.rows.length = n + 1 ∧
        ∀ row ∈ w.rows, ∀ x ∈ row.toList, x.val < Field.prime) ∧
    (∀ words, (∃ w, ofHexRows words = .ok w) ↔
      (∀ r ∈ words, r.length = 4 ∧ ∀ t ∈ r, ∃ x, Felt.ofHex t = .ok x) ∧
      ∃ k, 1 ≤ k ∧ words.length = 3 * k + 1) ∧
    (∀ w, Made w → ofHexRows w.toHexRows = .ok w) ∧
    ∀ words w, ofHexRows words = .ok w →
      List.Forall₂ (List.Forall₂ fun t u => respelled t = .ok u) words w.toHexRows := by
  refine ⟨?shape, ?drawn, fun _ => exists_ofHexRows_iff, fun _ h => ofHexRows_toHexRows h.whole,
    fun _ _ => respelled_toHexRows⟩
  case shape =>
    intro w h
    exact ⟨h.whole.positive, h.whole.instances, h.whole.length_rows⟩
  case drawn =>
    refine fun σ _ n s => ⟨exists_random_iff n s, random_crashes_iff n s, random_refuses_iff n s,
      fun w h => ⟨?_, fun _ _ x _ => x.isLt⟩⟩
    obtain ⟨hw, rfl⟩ := whole_of_random h
    exact hw.length_rows

/-- The longest length of 64 bits fills whole instances, and no witness has it. -/
theorem random_longest_makes_nothing : 0 < 2 ^ 64 - 1 ∧ 3 ∣ 2 ^ 64 - 1 ∧
    ∀ w, (random (2 ^ 64 - 1) (WordCycle.ofWords [1])).1 ≠ .ok w := by
  have hwhole : 0 < 2 ^ 64 - 1 ∧ hashesPerInstance ∣ 2 ^ 64 - 1 := by decide
  refine ⟨hwhole.1, hwhole.2, fun w => ?_⟩
  rw [random_of_no_room hwhole (by decide)]
  exact nofun

end ProofTrial.Witness
