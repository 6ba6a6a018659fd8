import ProofTrial.Json.Reader
import ProofTrial.Proofs.Text.Hex

/-! The characters of a text are found again in its bytes, whether they take one byte or up to
four. -/
namespace ProofTrial
namespace Text

theorem fromUTF8_toUTF8 (text : String) : String.fromUTF8? text.toUTF8 = some text := by
  rw [String.fromUTF8?, String.toUTF8_eq_toByteArray, dif_pos text.isValidUTF8]
  rfl

theorem ofBytesLossy_toUTF8 (text : String) : ofBytesLossy text.toUTF8 = text := by
  simp only [ofBytesLossy, fromUTF8_toUTF8]

theorem toNat_ofNat_byte {n : Nat} (h : n < 256) : (UInt8.ofNat n).toNat = n := by
  rw [UInt8.toNat_ofNat', Nat.mod_eq_of_lt h]

theorem isTail_iff {b : UInt8} : isTail b = true ↔ 0x80 ≤ b.toNat ∧ b.toNat ≤ 0xbf := by
  simp [isTail, UInt8.le_iff_toNat_le]

/-- A second byte is a tail, and four of the first bytes bound it further. -/
theorem isSecond_iff {a b : UInt8} :
    isSecond a b = true ↔ isTail b = true ∧ (a.toNat = 0xe0 → 0xa0 ≤ b.toNat) ∧
      (a.toNat = 0xed → b.toNat ≤ 0x9f) ∧ (a.toNat = 0xf0 → 0x90 ≤ b.toNat) ∧
      (a.toNat = 0xf4 → b.toNat ≤ 0x8f) := by
  rw [isTail_iff]
  simp only [isSecond, beq_iff_eq, ← UInt8.toNat_inj, UInt8.reduceToNat]
  split_ifs <;> simp [isTail, UInt8.le_iff_toNat_le] <;> omega

variable {a b c d : UInt8} (r : List UInt8)

theorem characters_one (ha : a.toNat < 0x80) :
    characters (a :: r) = .ok (Char.ofNat a.toNat) :: characters r := by
  have h1 : a < 0x80 := UInt8.lt_iff_toNat_lt.mpr ha
  rw [characters.eq_def]
  simp only [h1, ↓reduceIte]
  rfl

theorem characters_two (hlo : 0xc2 ≤ a.toNat) (hhi : a.toNat ≤ 0xdf) (hb : isTail b = true) :
    characters (a :: b :: r) =
      .ok (Char.ofNat (64 * (a.toNat % 32) + b.toNat % 64)) :: characters r := by
  have h1 : ¬ a < 0x80 := by rw [UInt8.lt_iff_toNat_lt]; simp; omega
  have h2 : (0xc2 ≤ a && a ≤ 0xdf) = true := by simp [UInt8.le_iff_toNat_le]; omega
  rw [characters.eq_def]
  simp only [h1, h2, hb, ↓reduceIte]
  rfl

theorem characters_three (hlo : 0xe0 ≤ a.toNat) (hhi : a.toNat ≤ 0xef)
    (hb : isSecond a b = true) (hc : isTail c = true) :
    characters (a :: b :: c :: r) =
      .ok (Char.ofNat (64 * (64 * (a.toNat % 16) + b.toNat % 64) + c.toNat % 64)) ::
        characters r := by
  have h1 : ¬ a < 0x80 := by rw [UInt8.lt_iff_toNat_lt]; simp; omega
  have h2 : ¬ (0xc2 ≤ a && a ≤ 0xdf) = true := by simp [UInt8.le_iff_toNat_le]; omega
  have h3 : (0xe0 ≤ a && a ≤ 0xef) = true := by simp [UInt8.le_iff_toNat_le]; omega
  rw [characters.eq_def]
  simp only [h1, h2, h3, hb, hc, ↓reduceIte]
  rfl

theorem characters_four (hlo : 0xf0 ≤ a.toNat) (hhi : a.toNat ≤ 0xf4)
    (hb : isSecond a b = true) (hc : isTail c = true) (hd : isTail d = true) :
    characters (a :: b :: c :: d :: r) =
      .ok (Char.ofNat (64 * (64 * (64 * (a.toNat % 8) + b.toNat % 64) + c.toNat % 64) +
        d.toNat % 64)) :: characters r := by
  have h1 : ¬ a < 0x80 := by rw [UInt8.lt_iff_toNat_lt]; simp; omega
  have h2 : ¬ (0xc2 ≤ a && a ≤ 0xdf) = true := by simp [UInt8.le_iff_toNat_le]; omega
  have h3 : ¬ (0xe0 ≤ a && a ≤ 0xef) = true := by simp [UInt8.le_iff_toNat_le]; omega
  have h4 : (0xf0 ≤ a && a ≤ 0xf4) = true := by simp [UInt8.le_iff_toNat_le]; omega
  rw [characters.eq_def]
  simp only [h1, h2, h3, h4, hb, hc, hd, ↓reduceIte]
  rfl

/-- The bytes of a character are read as that character. -/
theorem characters_utf8EncodeChar (k : Char) :
    characters (String.utf8EncodeChar k ++ r) = .ok k :: characters r := by
  have hvalid : k.val.toNat < 0xd800 ∨ 0xdfff < k.val.toNat ∧ k.val.toNat < 0x110000 := k.valid
  have hk : Char.ofNat k.val.toNat = k := Char.ofNat_toNat k
  rw [String.utf8EncodeChar.eq_1]
  generalize k.val.toNat = n at hvalid hk ⊢
  split_ifs with h1 h2 h3
  · have ha : (UInt8.ofNat n).toNat = n := toNat_ofNat_byte (by omega)
    rw [List.singleton_append, characters_one r (by omega), ha, hk]
  · have ha : (UInt8.ofNat (n / 64 % 32 + 192)).toNat = n / 64 % 32 + 192 :=
      toNat_ofNat_byte (by omega)
    have hb : (UInt8.ofNat (n % 64 + 128)).toNat = n % 64 + 128 := toNat_ofNat_byte (by omega)
    rw [List.cons_append, List.singleton_append,
      characters_two r (by omega) (by omega) (isTail_iff.mpr (by omega)), ha, hb, ← hk]
    congr 3
    omega
  · have ha : (UInt8.ofNat (n / 4096 % 16 + 224)).toNat = n / 4096 % 16 + 224 :=
      toNat_ofNat_byte (by omega)
    have hb : (UInt8.ofNat (n / 64 % 64 + 128)).toNat = n / 64 % 64 + 128 :=
      toNat_ofNat_byte (by omega)
    have hc : (UInt8.ofNat (n % 64 + 128)).toNat = n % 64 + 128 := toNat_ofNat_byte (by omega)
    rw [List.cons_append, List.cons_append, List.singleton_append,
      characters_three r (by omega) (by omega)
        (isSecond_iff.mpr ⟨isTail_iff.mpr (by omega), by omega, by omega, by omega, by omega⟩)
        (isTail_iff.mpr (by omega)), ha, hb, hc, ← hk]
    congr 3
    omega
  · have ha : (UInt8.ofNat (n / 262144 % 8 + 240)).toNat = n / 262144 % 8 + 240 :=
      toNat_ofNat_byte (by omega)
    have hb : (UInt8.ofNat (n / 4096 % 64 + 128)).toNat = n / 4096 % 64 + 128 :=
      toNat_ofNat_byte (by omega)
    have hc : (UInt8.ofNat (n / 64 % 64 + 128)).toNat = n / 64 % 64 + 128 :=
      toNat_ofNat_byte (by omega)
    have hd : (UInt8.ofNat (n % 64 + 128)).toNat = n % 64 + 128 := toNat_ofNat_byte (by omega)
    rw [List.cons_append, List.cons_append, List.cons_append, List.singleton_append,
      characters_four r (by omega) (by omega)
        (isSecond_iff.mpr ⟨isTail_iff.mpr (by omega), by omega, by omega, by omega, by omega⟩)
        (isTail_iff.mpr (by omega)) (isTail_iff.mpr (by omega)), ha, hb, hc, hd, ← hk]
    congr 3
    omega

/-- The characters of a text are those its bytes are read as. -/
theorem characters_toUTF8 (text : String) :
    characters text.toUTF8.data.toList = text.toList.map .ok := by
  have hbytes : text.toUTF8.data.toList = text.toList.flatMap String.utf8EncodeChar := by
    rw [String.toUTF8_eq_toByteArray, ← text.utf8Encode_toList, List.utf8Encode,
      List.toList_data_toByteArray]
  rw [hbytes]
  induction text.toList with
  | nil => rfl
  | cons k ks ih => rw [List.flatMap_cons, characters_utf8EncodeChar, ih, List.map_cons]

end Text

namespace Json.Reader

theorem symbols_toUTF8 (text : String) : symbols text.toUTF8 = text.toList.map some := by
  rw [symbols, Text.characters_toUTF8, List.flatMap_map]
  exact List.flatMap_pure_eq_map _ _

end Json.Reader
end ProofTrial
