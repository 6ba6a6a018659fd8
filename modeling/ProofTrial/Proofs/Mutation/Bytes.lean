import ProofTrial.Proofs.Mutation
import ProofTrial.Proofs.Random.Range
import ProofTrial.Proofs.Text.Bytes

/-! Proofs as bytes. The operators that shorten a proof take one byte off: the last one, or one
that is drawn and may be any. -/
namespace ProofTrial

namespace ProofHex
open Hex

/-- One zero in front of an odd number of digits. -/
def padded (ds : List Char) : List Char := List.replicate (ds.length % 2) '0' ++ ds

/-- The bytes of a proof with these digits; the empty proof's single zero has none. -/
def bytes? (ds : List Char) : Option (List UInt8) :=
  if ds = ['0'] then some [] else Hex.bytes? (padded ds)

/-- The text is a proof that consists of the bytes. -/
structure Holds (text : String) (bs : List UInt8) : Prop where
  wellFormed : isWellFormed text = true
  bytes : bytes? (payload text) = some bs

/-- The digits without the pair of the byte at `i`. -/
def withoutByte (ds : List Char) (i : Nat) : List Char := ds.take (2 * i) ++ ds.drop (2 * i + 2)

theorem even_padded (ds : List Char) : (padded ds).length % 2 = 0 := by
  rw [padded, List.length_append, List.length_replicate]
  omega

theorem padded_of_even {ds : List Char} (h : ds.length % 2 = 0) : padded ds = ds := by
  rw [padded, h]
  rfl

theorem digits_padded {ds : List Char} (h : ∀ c ∈ ds, isDigit c = true) :
    ∀ c ∈ padded ds, isDigit c = true := by
  intro c hc
  rcases List.mem_append.mp hc with hc | hc
  · rw [List.eq_of_mem_replicate hc]
    decide
  · exact h c hc

theorem aligned_eq_padded {ds : List Char} (h : ds ≠ ['0']) : aligned ds = padded ds := by
  by_cases hnil : ds = []
  · subst hnil
    rfl
  · rw [aligned, if_neg (by simp [hnil, h]), padded]
    rcases Nat.mod_two_eq_zero_or_one ds.length with he | ho
    · simp [he]
    · simp [ho]

/-- The pairs that the operators work on spell the bytes. -/
theorem spells_aligned {ds : List Char} {bs : List UInt8} (h : bytes? ds = some bs) :
    Spells (aligned ds) bs := by
  unfold bytes? at h
  split_ifs at h with hz
  · obtain rfl := Option.some.inj h
    subst hz
    exact .nil
  · rw [aligned_eq_padded hz]
    exact bytes?_eq_some.mp h

theorem exists_bytes {ds : List Char} (h : ∀ c ∈ ds, isDigit c = true) :
    ∃ bs, bytes? ds = some bs := by
  unfold bytes?
  split_ifs
  · exact ⟨[], rfl⟩
  · obtain ⟨bs, hbs⟩ := Spells.exists_of_digits _ (even_padded ds) (digits_padded h)
    exact ⟨bs, bytes?_eq_some.mpr hbs⟩

theorem holds_emptyProof : Holds emptyProof [] := ⟨isWellFormed_emptyProof, rfl⟩

theorem paired_of_spells {es : List Char} {bs : List UInt8} (h : Spells es bs) (hb : bs ≠ []) :
    Paired es where
  nonempty := by
    rintro rfl
    cases h
    exact hb rfl
  even := by
    rw [h.length]
    omega
  digits := h.digits

theorem holds_of_spells {es : List Char} {bs : List UInt8} (h : Spells es bs) (hb : bs ≠ []) :
    Holds (ofPayload es) bs := by
  have hp := paired_of_spells h hb
  refine ⟨hp.wellFormed, ?_⟩
  rw [payload_ofPayload, bytes?, if_neg hp.ne_zero, padded_of_even hp.even]
  exact bytes?_eq_some.mpr h

theorem spells_withoutByte {es : List Char} {bs : List UInt8} (h : Spells es bs) (i : Nat) :
    Spells (withoutByte es i) (bs.eraseIdx i) := by
  rw [List.eraseIdx_eq_take_drop_succ]
  exact (h.take i).append (h.drop (i + 1))

theorem holds_withoutByte {es : List Char} {bs : List UInt8} (h : Spells es bs)
    (hb : 1 < bs.length) (i : Fin bs.length) :
    Holds (ofPayload (withoutByte es i)) (bs.eraseIdx i) := by
  refine holds_of_spells (spells_withoutByte h i) (List.ne_nil_of_length_pos ?_)
  rw [List.length_eraseIdx_of_lt i.isLt]
  omega

end ProofHex

namespace Mutation
open ProofHex

variable {σ : Type} [RandomSource σ]

theorem holds_truncate {es : List Char} {bs : List UInt8} (h : Hex.Spells es bs) :
    Holds (truncate es) bs.dropLast := by
  have hlen := h.length
  rw [truncate, List.dropLast_eq_take]
  split_ifs with hl
  · have hnone : bs.take (bs.length - 1) = [] := by
      rw [List.take_eq_nil_iff]
      omega
    rw [hnone]
    exact holds_emptyProof
  · have hes : es.length - 2 = 2 * (bs.length - 1) := by omega
    rw [hes]
    refine holds_of_spells (h.take _) (List.ne_nil_of_length_pos ?_)
    rw [List.length_take]
    omega

theorem removeByte_of_short {es : List Char} {bs : List UInt8} (h : Hex.Spells es bs)
    (hb : bs.length ≤ 1) (s : σ) : removeByte es s = (emptyProof, s) := by
  rw [removeByte, dif_pos (by rw [h.length]; omega)]

theorem removeByte_of_long {es : List Char} {n : Nat} (hlen : es.length = 2 * n) (hn : 1 < n)
    (s : σ) : removeByte es s =
      (ofPayload (withoutByte es (Random.index n (Nat.zero_lt_of_lt hn) s).1),
        (Random.index n (Nat.zero_lt_of_lt hn) s).2) := by
  obtain rfl : es.length / 2 = n := by omega
  rw [removeByte, dif_neg (by omega)]
  rfl

/-- Each byte is left out for some source. A single byte is left out without a draw. -/
theorem removeByte_reaches {es : List Char} {bs : List UInt8} (h : Hex.Spells es bs)
    (hn : bs.length ≤ 2 ^ 64) (i : Fin bs.length) : ∃ draws : WordCycle,
      (Random.index bs.length i.pos draws).1 = i ∧
        Holds (removeByte es draws).1 (bs.eraseIdx i) := by
  obtain ⟨draws, hi⟩ := Random.exists_source_index i.pos hn i
  refine ⟨draws, hi, ?_⟩
  by_cases hb : 1 < bs.length
  · rw [removeByte_of_long h.length hb, hi]
    exact holds_withoutByte h hb i
  · have hnone : bs.eraseIdx i = [] := by
      apply List.eq_nil_of_length_eq_zero
      rw [List.length_eraseIdx_of_lt i.isLt]
      omega
    rw [removeByte_of_short h (by omega), hnone]
    exact holds_emptyProof

/-- The operators that shorten work on the pairs of digits. -/
theorem transform_shorter {ds : List Char} (hd : ∀ c ∈ ds, Hex.isDigit c = true) (s : σ) :
    truncateLastByte.transform (ofPayload ds) s = (truncate (aligned ds), s) ∧
      removeRandomByte.transform (ofPayload ds) s = removeByte (aligned ds) s := by
  have ha := isAscii_of_digits hd
  simp only [transform, payload_ofPayload, ha, ↓reduceIte, and_self]

/-- Of the bytes of a proof, however its digits are written, the last one is cut off, or the drawn
one is left out with its digits and no others, and each of them is the drawn one for some source.
Where there is one byte or none nothing is drawn and the empty proof is left. -/
theorem truncate_remove_bytes {ds : List Char} (hd : ∀ c ∈ ds, Hex.isDigit c = true) :
    ∃ bs, bytes? ds = some bs ∧
      (∀ s : σ, ∃ text, truncateLastByte.transform (ofPayload ds) s = (text, s) ∧
        Holds text bs.dropLast) ∧
      (bs.length ≤ 1 → ∀ s : σ,
        removeRandomByte.transform (ofPayload ds) s = (emptyProof, s)) ∧
      (∀ (h : 1 < bs.length) (s t : σ) (i : Fin bs.length),
        Random.index bs.length (Nat.zero_lt_of_lt h) s = (i, t) →
          removeRandomByte.transform (ofPayload ds) s =
              (ofPayload (withoutByte (padded ds) i), t) ∧
            Holds (ofPayload (withoutByte (padded ds) i)) (bs.eraseIdx i)) ∧
      -- A text in memory has fewer bytes than there are words to number them.
      (bs.length ≤ 2 ^ 64 → ∀ i : Fin bs.length, ∃ draws : WordCycle,
        (Random.index bs.length i.pos draws).1 = i ∧
          Holds (removeRandomByte.transform (ofPayload ds) draws).1 (bs.eraseIdx i)) := by
  obtain ⟨bs, hbs⟩ := exists_bytes hd
  have hs := spells_aligned hbs
  refine ⟨bs, hbs, ?_, ?_, ?_, ?_⟩
  · intro s
    exact ⟨_, (transform_shorter hd s).1, holds_truncate hs⟩
  · intro hb s
    rw [(transform_shorter hd s).2]
    exact removeByte_of_short hs hb s
  · intro hb s t i hi
    have hpad : aligned ds = padded ds := by
      apply aligned_eq_padded
      rintro rfl
      obtain rfl : [] = bs := Option.some.inj hbs
      simp at hb
    have hrun := removeByte_of_long hs.length hb s
    rw [hi, hpad] at hrun
    rw [hpad] at hs
    rw [(transform_shorter hd s).2, hpad]
    exact ⟨hrun, holds_withoutByte hs hb i⟩
  · intro hn i
    obtain ⟨draws, hi, hholds⟩ := removeByte_reaches hs hn i
    rw [← (transform_shorter hd draws).2] at hholds
    exact ⟨draws, hi, hholds⟩

/-- Three digits are two bytes. -/
theorem truncate_remove_bytes_sample :
    (∀ c ∈ ['1', '2', '3'], Hex.isDigit c = true) ∧
    bytes? ['1', '2', '3'] = some [0x01, 0x23] ∧
    Holds (truncateLastByte.transform "0x123" (WordCycle.ofWords [0])).1 [0x01] ∧
    ∃ draws : WordCycle, Holds (removeRandomByte.transform "0x123" draws).1 [0x01] := by
  have hd : ∀ c ∈ ['1', '2', '3'], Hex.isDigit c = true := by
    simp [Hex.isDigit, Hex.digitValue?]
  have hbytes : bytes? ['1', '2', '3'] = some [0x01, 0x23] := rfl
  obtain ⟨bs, hbs, htruncate, _, _, hreach⟩ := truncate_remove_bytes (σ := WordCycle) hd
  obtain rfl := Option.some.inj (hbytes.symm.trans hbs)
  obtain ⟨text, ht, hholds⟩ := htruncate (WordCycle.ofWords [0])
  obtain ⟨draws, _, hremoved⟩ := hreach (by decide) ⟨1, by decide⟩
  have htext : (truncateLastByte.transform (ofPayload ['1', '2', '3']) (WordCycle.ofWords [0])).1 =
    text := congrArg Prod.fst ht
  exact ⟨hd, hbytes, htext ▸ hholds, draws, hremoved⟩

end Mutation
end ProofTrial
