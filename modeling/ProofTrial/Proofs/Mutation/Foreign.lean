import ProofTrial.Proofs.Mutation
import ProofTrial.Random.WordCycle

/-! Raw operators on texts that are no proofs. A character of more than a byte keeps every operator
from a text. A foreign character that takes one byte keeps none of them from it but the identity:
where bytes are counted it stands for a digit, and where a digit is flipped it counts as zero. -/
namespace ProofTrial

namespace ProofHex

/-- Some character of the payload is no digit. -/
def Foreign (text : String) : Prop := ∃ c ∈ payload text, Hex.isDigit c = false

theorem Foreign.ne_nil {text : String} (h : Foreign text) : payload text ≠ [] := by
  obtain ⟨c, hc, _⟩ := h
  exact List.ne_nil_of_mem hc

theorem Foreign.ne_zero {text : String} (h : Foreign text) : payload text ≠ ['0'] := by
  intro hzero
  obtain ⟨c, hc, hd⟩ := h
  rw [hzero] at hc
  obtain rfl := List.mem_singleton.mp hc
  contradiction

theorem ofPayload_ne {text : String} {ds : List Char} (h : ds ≠ payload text) :
    ofPayload ds ≠ text := by
  rintro rfl
  exact h (payload_ofPayload ds).symm

theorem ofPayload_ne_of_length {text : String} {ds : List Char}
    (h : ds.length ≠ (payload text).length) : ofPayload ds ≠ text :=
  ofPayload_ne fun he => h (congrArg List.length he)

theorem Foreign.emptyProof_ne {text : String} (h : Foreign text) : emptyProof ≠ text :=
  ofPayload_ne fun he => h.ne_zero he.symm

/-- At most one zero comes in front of digits that are put in pairs. -/
theorem length_aligned {ds : List Char} (hne : ds ≠ []) (hz : ds ≠ ['0']) :
    (aligned ds).length = ds.length ∨ (aligned ds).length = ds.length + 1 := by
  rw [aligned, if_neg (not_or.mpr ⟨hne, hz⟩)]
  split_ifs
  · exact .inr rfl
  · exact .inl rfl

/-- No character of one byte is the digit that takes its place. -/
theorem flipDigit_ne {c : Char} (h : c.toNat < 128) {bit : Nat} (hb : bit < 4) :
    flipDigit (2 ^ bit) c ≠ c := by
  have hall : ∀ n < 128, ∀ b < 4, flipDigit (2 ^ b) (Char.ofNat n) ≠ Char.ofNat n := by
    decide +kernel
  exact Hex.forall_ascii (p := fun c => ∀ b < 4, flipDigit (2 ^ b) c ≠ c) hall h bit hb

end ProofHex

namespace Mutation
open ProofHex

variable {σ : Type} [RandomSource σ] {text : String}

theorem truncate_ne (h : Foreign text) : truncate (aligned (payload text)) ≠ text := by
  have hlen := length_aligned h.ne_nil h.ne_zero
  rw [truncate]
  split_ifs with hshort
  · exact h.emptyProof_ne
  · apply ofPayload_ne_of_length
    rw [List.length_take]
    omega

theorem removeByte_ne (h : Foreign text) (s : σ) :
    (removeByte (aligned (payload text)) s).1 ≠ text := by
  have hlen := length_aligned h.ne_nil h.ne_zero
  rw [removeByte]
  split_ifs with hshort
  · exact h.emptyProof_ne
  · generalize Random.index ((aligned (payload text)).length / 2) _ s = draw
    obtain ⟨i, s⟩ := draw
    have hi := i.isLt
    apply ofPayload_ne_of_length
    rw [List.length_append, List.length_take, List.length_drop]
    omega

theorem flipBit_ne (h : Foreign text) (hascii : ∀ c ∈ payload text, c.toNat < 128) (s : σ) :
    (flipBit (payload text) s).1 ≠ text := by
  rw [flipBit, dif_neg (not_or.mpr ⟨h.ne_nil, h.ne_zero⟩)]
  generalize Random.index (payload text).length _ s = draw
  obtain ⟨i, s⟩ := draw
  dsimp only
  generalize Random.below32 4 _ s = draw
  obtain ⟨bit, s⟩ := draw
  have hc := hascii _ (List.getElem_mem i.isLt)
  exact ofPayload_ne (modify_ne i.isLt (flipDigit_ne hc bit.isLt))

theorem not_all_isAscii (h : ∃ c ∈ payload text, 128 ≤ c.toNat) :
    ¬ (payload text).all isAscii = true := by
  obtain ⟨c, hc, hge⟩ := h
  exact fun hall => Nat.not_lt.mpr hge (all_isAscii.mp hall c hc)

theorem transform_of_wide (h : ∃ c ∈ payload text, 128 ≤ c.toNat) (m : Mutation) (s : σ) :
    m.transform text s = (text, s) := by
  simp only [transform, if_neg (not_all_isAscii h)]

theorem transform_ne_of_foreign (h : Foreign text) (hascii : ∀ c ∈ payload text, c.toNat < 128)
    {m : Mutation} (hm : m ≠ identity) (s : σ) : (m.transform text s).1 ≠ text := by
  simp only [transform, all_isAscii.mpr hascii, ↓reduceIte]
  cases m with
  | identity => exact absurd rfl hm
  | empty => exact h.emptyProof_ne
  | truncateLastByte => exact truncate_ne h
  | removeRandomByte => exact removeByte_ne h s
  | flipRandomBit => exact flipBit_ne h hascii s

/-- A text with a foreign character is left alone, without a draw, by the identity, and by every
operator when one of its characters takes more than a byte. Every other text with a foreign
character is changed by every other operator, whatever is drawn. -/
theorem foreign_kept_iff_wide (h : Foreign text) (m : Mutation) (s : σ) :
    (m = identity ∨ (∃ c ∈ payload text, 128 ≤ c.toNat) → m.transform text s = (text, s)) ∧
    ((m.transform text s).1 = text ↔ m = identity ∨ ∃ c ∈ payload text, 128 ≤ c.toNat) := by
  have hkept : m = identity ∨ (∃ c ∈ payload text, 128 ≤ c.toNat) →
      m.transform text s = (text, s) := by
    rintro (rfl | hwide)
    · exact transform_identity text s
    · exact transform_of_wide hwide m s
  refine ⟨hkept, fun he => ?_, fun hk => congrArg Prod.fst (hkept hk)⟩
  by_contra hno
  obtain ⟨hm, hwide⟩ := not_or.mp hno
  have hascii : ∀ c ∈ payload text, c.toNat < 128 := by
    intro c hc
    by_contra hge
    exact hwide ⟨c, hc, Nat.not_lt.mp hge⟩
  exact transform_ne_of_foreign h hascii hm s he

/-- One character of two bytes protects the digit beside it. -/
theorem foreign_kept_iff_wide_sample :
    Foreign "0xé1" ∧ (∃ c ∈ payload "0xé1", 128 ≤ c.toNat) ∧
    flipRandomBit.transform "0xé1" (WordCycle.ofWords [7]) =
      ("0xé1", WordCycle.ofWords [7]) := by
  have hwide : ∃ c ∈ payload "0xé1", 128 ≤ c.toNat := ⟨'é', by decide, by decide⟩
  have h : Foreign "0xé1" := ⟨'é', by decide, by decide⟩
  exact ⟨h, hwide, (foreign_kept_iff_wide h flipRandomBit (WordCycle.ofWords [7])).1 (.inr hwide)⟩

/-- Letters that are no digits are cut off, emptied and flipped, and the flip draws two words. -/
theorem foreign_not_kept :
    Foreign "0xzz" ∧
    truncateLastByte.transform "0xzz" (WordCycle.ofWords [7]) = ("0x0", ⟨[7], 0⟩) ∧
    empty.transform "0xzz" (WordCycle.ofWords [7]) = ("0x0", ⟨[7], 0⟩) ∧
    removeRandomByte.transform "0xzz" (WordCycle.ofWords [7]) = ("0x0", ⟨[7], 0⟩) ∧
    flipRandomBit.transform "0xzz" (WordCycle.ofWords [7]) = ("0x1z", ⟨[7], 2⟩) :=
  ⟨⟨'z', by decide, by decide⟩, by decide, by decide, by decide, by decide⟩

end Mutation
end ProofTrial
