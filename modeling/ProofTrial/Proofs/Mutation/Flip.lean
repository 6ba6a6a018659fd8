import ProofTrial.Proofs.BitFlip
import ProofTrial.Proofs.Mutation.Bytes

/-! The operator that changes a proof of the same length. It flips one bit of one digit, which is
one bit of one byte, so doing it again with the same draws undoes it. -/
namespace ProofTrial

/-- The lists of bytes differ in one bit alone. -/
structure OneBitOff (bs cs : List UInt8) (i bit : Nat) : Prop where
  length : cs.length = bs.length
  inside : i < bs.length ∧ bit < 8
  bits : ∀ (j : Nat) (b c : UInt8), bs[j]? = some b → cs[j]? = some c → ∀ k,
    b.toNat.testBit k ≠ c.toNat.testBit k ↔ j = i ∧ k = bit

theorem toNat_ofNat_two_pow {bit : Nat} (h : bit < 8) : (UInt8.ofNat (2 ^ bit)).toNat = 2 ^ bit :=
  UInt8.toNat_ofNat_of_lt' (Nat.pow_lt_pow_right (by decide) h)

theorem oneBitOff_modify {bs : List UInt8} {i bit : Nat} (hi : i < bs.length) (hb : bit < 8) :
    OneBitOff bs (bs.modify i (· ^^^ UInt8.ofNat (2 ^ bit))) i bit where
  length := List.length_modify ..
  inside := ⟨hi, hb⟩
  bits := by
    intro j b c hb' hc k
    rw [List.getElem?_modify, hb'] at hc
    obtain rfl := Option.some.inj hc
    split_ifs with hij
    · rw [UInt8.toNat_xor, toNat_ofNat_two_pow hb, testBit_xor_two_pow]
      simp [hij]
    · simp [Ne.symm hij]

/-- Bits that are flipped twice are as they were. -/
theorem modify_xor_xor (bs : List UInt8) (i : Nat) (mask : UInt8) :
    (bs.modify i (· ^^^ mask)).modify i (· ^^^ mask) = bs := by
  have hid : ((· ^^^ mask) : UInt8 → UInt8) ∘ (· ^^^ mask) = id := by
    funext b
    rw [Function.comp_apply, UInt8.xor_assoc, UInt8.xor_self, UInt8.xor_zero, id]
  rw [List.modify_modify_eq, hid, List.modify_id]

namespace ProofHex
open Hex

/-- One digit of the text is replaced by the one whose value differs in one bit. A letter is
written in upper case where an upper-case one stood, and nowhere else. -/
structure FlipsDigit (before after : String) (place bit : Nat) : Prop where
  length : after.length = before.length
  bit_lt : bit < 4
  elsewhere : ∀ j, j ≠ place + 2 → after.toList[j]? = before.toList[j]?
  digit : ∃ c d v, before.toList[place + 2]? = some c ∧ after.toList[place + 2]? = some d ∧ d ≠ c ∧
    digitValue? c = some v ∧ digitValue? d = some (v ^^^ 2 ^ bit) ∧
    d.isUpper = (c.isUpper && d.isAlpha)

theorem digitValue_flipDigit {bit : Nat} (hb : bit < 4) {c : Char} {v : Nat}
    (h : digitValue? c = some v) : digitValue? (flipDigit (2 ^ bit) c) = some (v ^^^ 2 ^ bit) := by
  have hall : ∀ n < 128, isDigit (Char.ofNat n) = true → ∀ b < 4,
      ∀ v ∈ digitValue? (Char.ofNat n),
        digitValue? (flipDigit (2 ^ b) (Char.ofNat n)) = some (v ^^^ 2 ^ b) := by decide +kernel
  exact forall_digit (p := fun c => ∀ b < 4, ∀ v ∈ digitValue? c,
    digitValue? (flipDigit (2 ^ b) c) = some (v ^^^ 2 ^ b)) hall (isDigit_iff.mpr ⟨v, h⟩) bit hb v h

theorem isUpper_flipDigit {bit : Nat} (hb : bit < 4) {c : Char} (h : isDigit c = true) :
    (flipDigit (2 ^ bit) c).isUpper = (c.isUpper && (flipDigit (2 ^ bit) c).isAlpha) := by
  have hall : ∀ n < 128, isDigit (Char.ofNat n) = true → ∀ b < 4,
      (flipDigit (2 ^ b) (Char.ofNat n)).isUpper =
        ((Char.ofNat n).isUpper && (flipDigit (2 ^ b) (Char.ofNat n)).isAlpha) := by decide +kernel
  exact forall_digit (p := fun c => ∀ b < 4, (flipDigit (2 ^ b) c).isUpper =
    (c.isUpper && (flipDigit (2 ^ b) c).isAlpha)) hall h bit hb

theorem flipsDigit_modify {ds : List Char} (hd : ∀ c ∈ ds, isDigit c = true) {place bit : Nat}
    (hp : place < ds.length) (hb : bit < 4) :
    FlipsDigit (ofPayload ds) (ofPayload (ds.modify place (flipDigit (2 ^ bit)))) place bit where
  length := by simp [ofPayload]
  bit_lt := hb
  elsewhere := by
    intro j hj
    simp only [ofPayload, String.toList_ofList]
    rcases j with _ | _ | j
    · rfl
    · rfl
    · have hne : place ≠ j := by omega
      simp [hne]
  digit := by
    have hc := hd _ (List.getElem_mem hp)
    obtain ⟨v, hv⟩ := isDigit_iff.mp hc
    refine ⟨ds[place], flipDigit (2 ^ bit) ds[place], v, ?_, ?_, (flipDigit_digit hc hb).2, hv,
      digitValue_flipDigit hb hv, isUpper_flipDigit hb hc⟩
    · simp [ofPayload, hp]
    · simp [ofPayload, hp]

theorem Paired.exists_spells {ds : List Char} (h : Paired ds) :
    ∃ bs, Spells ds bs ∧ bs ≠ [] := by
  obtain ⟨bs, hs⟩ := Spells.exists_of_digits ds h.even h.digits
  refine ⟨bs, hs, ?_⟩
  rintro rfl
  exact h.nonempty (List.eq_nil_of_length_eq_zero hs.length)

end ProofHex

namespace Mutation
open ProofHex

variable {σ : Type} [RandomSource σ]

theorem transform_flip {ds : List Char} (hd : Paired ds) {n : Nat} (h : 0 < n)
    (hlen : ds.length = n) {s t u : σ} {place : Fin n} {bit : Fin 4}
    (hplace : Random.index n h s = (place, t))
    (hbit : Random.below32 4 (by decide) t = (bit, u)) :
    flipRandomBit.transform (ofPayload ds) s =
      (ofPayload (ds.modify place (flipDigit (2 ^ bit.val))), u) := by
  subst hlen
  have ha := isAscii_of_digits hd.digits
  have hn : ¬ (ds = [] ∨ ds = ['0']) := not_or.mpr ⟨hd.nonempty, hd.ne_zero⟩
  have hflip : flipBit ds s = (ofPayload (ds.modify place (flipDigit (2 ^ bit.val))), u) := by
    rw [flipBit, dif_neg hn]
    simp only [hplace, hbit]
  simp only [transform, payload_ofPayload, ha, ↓reduceIte, hflip]

/-- The digits keep their number, so the same draws choose the same bit again. -/
theorem flip_run {ds : List Char} (hd : Paired ds) {bs : List UInt8} (hs : Hex.Spells ds bs)
    (s : σ) : ∃ out t place bit cs, flipRandomBit.transform (ofPayload ds) s = (out, t) ∧
      FlipsDigit (ofPayload ds) out place bit ∧
      Holds out cs ∧ OneBitOff bs cs (place / 2) (Hex.byteBit place bit) ∧
      ∃ back, flipRandomBit.transform out s = (back, t) ∧ Holds back bs := by
  have hpos : 0 < ds.length := List.length_pos_iff.mpr hd.nonempty
  rcases hplace : Random.index ds.length hpos s with ⟨place, t⟩
  rcases hbit : Random.below32 4 (by decide) t with ⟨bit, u⟩
  have hflip := hs.modify bit.isLt (fun _ _ => digitValue_flipDigit bit.isLt) place
  have hback := hflip.modify bit.isLt (fun _ _ => digitValue_flipDigit bit.isLt) place
  rw [modify_xor_xor] at hback
  have hlen := hs.length
  have hbyte : place.val / 2 < bs.length := by omega
  have hoff := oneBitOff_modify hbyte (Hex.byteBit_lt place bit.isLt)
  have hbs : bs ≠ [] := List.ne_nil_of_length_pos (Nat.zero_lt_of_lt hbyte)
  have hcs := List.ne_nil_of_length_pos (hoff.length ▸ Nat.zero_lt_of_lt hbyte)
  exact ⟨_, u, place, bit, _, transform_flip hd hpos rfl hplace hbit,
    flipsDigit_modify hd.digits place.isLt bit.isLt, holds_of_spells hflip hcs, hoff, _,
    transform_flip (paired_of_spells hflip hcs) hpos (List.length_modify ..) hplace hbit,
    holds_of_spells hback hbs⟩

theorem flip_reaches {ds : List Char} (hd : Paired ds) (hn : ds.length ≤ 2 ^ 64)
    (place : Fin ds.length) (bit : Fin 4) : ∃ draws : WordCycle,
      FlipsDigit (ofPayload ds) (flipRandomBit.transform (ofPayload ds) draws).1 place bit := by
  obtain ⟨draws, hplace, hbit⟩ :=
    Random.exists_source_index_below32 place.pos hn place (by decide) (by decide) bit
  refine ⟨draws, ?_⟩
  rw [transform_flip hd place.pos rfl (Prod.ext hplace rfl) (Prod.ext hbit rfl)]
  exact flipsDigit_modify hd.digits place.isLt bit.isLt

/-- A flip changes one bit of one digit and of one byte, each for some source, and the same draws
take it back. The empty proof has no bit to flip. -/
theorem flip_one_bit {text : String} (h : isWellFormed text = true) :
    (text = emptyProof → ∀ s : σ, flipRandomBit.transform text s = (emptyProof, s)) ∧
    (text ≠ emptyProof → ∃ bs, Holds text bs ∧
      (∀ s : σ, ∃ out t place bit cs, flipRandomBit.transform text s = (out, t) ∧
        FlipsDigit text out place bit ∧
        Holds out cs ∧ OneBitOff bs cs (place / 2) (Hex.byteBit place bit) ∧
        ∃ back, flipRandomBit.transform out s = (back, t) ∧ Holds back bs) ∧
      -- A text in memory has fewer characters than there are words to number them.
      (text.length ≤ 2 ^ 64 → ∀ place, place + 2 < text.length → ∀ bit < 4,
        ∃ draws : WordCycle,
          FlipsDigit text (flipRandomBit.transform text draws).1 place bit)) := by
  constructor
  · rintro rfl s
    exact transform_emptyProof _ s
  · intro hne
    obtain ⟨ds, rfl, hp⟩ := exists_payload h
    replace hp : Paired ds := hp.resolve_left fun hz => hne (hz ▸ rfl)
    obtain ⟨bs, hs, hbs⟩ := hp.exists_spells
    refine ⟨bs, holds_of_spells hs hbs, flip_run hp hs, ?_⟩
    intro hn place hplace bit hbit
    rw [ofPayload, String.length_ofList, List.length_cons, List.length_cons] at hn hplace
    exact flip_reaches hp (by omega) ⟨place, by omega⟩ ⟨bit, hbit⟩

/-- The top bit of an upper-case letter, which leaves a decimal digit. -/
theorem flip_one_bit_sample : isWellFormed "0xA0" = true ∧ "0xA0" ≠ emptyProof ∧
    ∃ draws : WordCycle, FlipsDigit "0xA0" (flipRandomBit.transform "0xA0" draws).1 0 3 := by
  have h : isWellFormed "0xA0" = true := by decide
  have hne : "0xA0" ≠ emptyProof := by decide
  obtain ⟨_, _, _, hreach⟩ := (flip_one_bit (σ := WordCycle) h).2 hne
  exact ⟨h, hne, hreach (by decide) 0 (by decide) 3 (by decide)⟩

end Mutation
end ProofTrial
