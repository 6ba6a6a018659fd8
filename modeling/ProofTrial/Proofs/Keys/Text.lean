import ProofTrial.Keys
import ProofTrial.Proofs.Field.Text
import ProofTrial.Proofs.Text.Bytes

/-! Private keys as texts. A key is read as the number that its digits make, whatever their case and
their mark, and every other text is refused: padding counts characters and reading counts bytes, so
characters of more than a byte never fit. A key is printed with all its digits. -/
namespace ProofTrial.Seed
open Hex

/-- The number that the bytes of a seed make. -/
def number (s : Seed) : Nat := BigEndian.value s.bytes.toList

theorem number_inj {s t : Seed} : s.number = t.number ↔ s = t := by
  rw [number, number, BigEndian.value_inj (by simp), Vector.toList_inj]
  exact ⟨fun h => by cases s; cases t; exact congrArg Seed.mk h, congrArg Seed.bytes⟩

theorem exists_seed (bs : List UInt8) (h : bs.length = 32) : ∃ s : Seed, s.bytes.toList = bs :=
  ⟨⟨⟨bs.toArray, h⟩⟩, rfl⟩

theorem foreignByte?_eq_none {position : Nat} {bs : List UInt8} :
    foreignByte? position bs = none ↔ ∀ b ∈ bs, isDigit (Char.ofNat b.toNat) = true := by
  induction bs generalizing position with
  | nil => simp [foreignByte?]
  | cons b bs ih =>
    rw [foreignByte?, List.forall_mem_cons]
    split_ifs with hb
    · simp [hb, ih]
    · simp [hb]

/-- Digits that spell 32 bytes are read as them. -/
theorem decode_of_spells {ds : List Char} {s : Seed} (h : Spells ds s.bytes.toList) :
    decode (String.ofList ds) = .ok s := by
  have hascii : ∀ c ∈ ds, c.toNat < 128 := fun c hc => toNat_lt_of_isDigit (h.digits c hc)
  have hlen : ds.length = 64 := by rw [h.length, Vector.length_toList]
  have hforeign : foreignByte? 0 (ds.map fun c => UInt8.ofNat c.toNat) = none := by
    rw [foreignByte?_eq_none]
    intro b hb
    obtain ⟨c, hc, rfl⟩ := List.mem_map.mp hb
    rw [ofNat_byte (hascii c hc)]
    exact h.digits c hc
  have hread : (Vector.ofFn fun i : Fin 32 => s.bytes.toList.getD i.val 0) = s.bytes := by
    ext i hi
    simp
  simp only [decode, toUTF8_ofList hascii, List.length_map, hlen, digitCount, hforeign,
    map_ofNat_bytes hascii, bytes?_eq_some.mpr h, Option.getD_some, hread]
  rfl

/-- Where there are no fewer characters than bytes are wanted, each of them takes one byte. -/
theorem digits_of_decode {ds : List Char} {s : Seed} (hlen : 64 ≤ ds.length)
    (h : decode (String.ofList ds) = .ok s) : ds.length = 64 ∧ ∀ c ∈ ds, isDigit c = true := by
  simp only [decode, length_toUTF8, digitCount] at h
  split_ifs at h with hodd hsize
  have hle := length_le_utf8ByteSize ds
  have hlength : ds.length = 64 := by omega
  have hascii := utf8ByteSize_ofList_eq_length.mp (show _ = ds.length by omega)
  rw [toUTF8_ofList hascii] at h
  cases hf : foreignByte? 0 (ds.map fun c => UInt8.ofNat c.toNat) with
  | some f => simp [hf] at h
  | none =>
    refine ⟨hlength, fun c hc => ?_⟩
    have hdigit := foreignByte?_eq_none.mp hf _ (List.mem_map_of_mem hc)
    rwa [ofNat_byte (hascii c hc)] at hdigit

theorem exists_spelled {ds : List Char} (hlen : ds.length = 64) (h : ∀ c ∈ ds, isDigit c = true) :
    ∃ s : Seed, Spells ds s.bytes.toList := by
  obtain ⟨bs, hbs⟩ := Spells.exists_of_digits ds (by omega) h
  have hwidth := hbs.length
  obtain ⟨s, rfl⟩ := exists_seed bs (by omega)
  exact ⟨s, hbs⟩

theorem decode_eq_ok {ds : List Char} {s : Seed} (hlen : 64 ≤ ds.length) :
    decode (String.ofList ds) = .ok s ↔ Spells ds s.bytes.toList := by
  refine ⟨fun h => ?_, decode_of_spells⟩
  obtain ⟨hlength, hdigits⟩ := digits_of_decode hlen h
  obtain ⟨t, ht⟩ := exists_spelled hlength hdigits
  rwa [Except.ok.inj (h.symm.trans (decode_of_spells ht))]

theorem length_pad (ds : List Char) : (pad ds).length = max 64 ds.length := by
  rw [pad, List.length_append, List.length_replicate, digitCount]
  omega

theorem digits_pad {ds : List Char} :
    (∀ c ∈ pad ds, isDigit c = true) ↔ ∀ c ∈ ds, isDigit c = true := by
  have hzero : ∀ c ∈ List.replicate (digitCount - ds.length) '0', isDigit c = true := by
    intro c hc
    rw [List.eq_of_mem_replicate hc]
    decide
  rw [pad, List.forall_mem_append, and_iff_right hzero]

theorem value_pad (ds : List Char) : value (pad ds) = value ds := value_zeros _ ds

/-- What is read is one to 64 digits, and the bytes that they spell behind zeros. -/
theorem ofHex_eq_ok {text : String} {s : Seed} : ofHex text = .ok s ↔
    digitsOf text ≠ [] ∧ (digitsOf text).length ≤ 64 ∧
      Spells (pad (digitsOf text)) s.bytes.toList := by
  have hpad : 64 ≤ (pad (digitsOf text)).length := length_pad _ ▸ le_max_left _ _
  have hle := length_le_utf8ByteSize (digitsOf text)
  unfold ofHex
  dsimp only
  split_ifs with hsize
  · simp only [digitCount] at hsize
    constructor
    · intro h
      contradiction
    rintro ⟨hne, hlen, hspells⟩
    have hascii : ∀ c ∈ digitsOf text, c.toNat < 128 := fun c hc =>
      toNat_lt_of_isDigit (digits_pad.mp hspells.digits c hc)
    have hpos := List.length_pos_iff.mpr hne
    rw [utf8ByteSize_ofList_eq_length.mpr hascii] at hsize
    omega
  · simp only [digitCount] at hsize
    have hne : digitsOf text ≠ [] := by
      intro hnil
      exact hsize (.inl (by rw [hnil]; rfl))
    have hlen : (digitsOf text).length ≤ 64 := by omega
    rw [mapError_eq_ok, decode_eq_ok hpad, and_iff_right hne, and_iff_right hlen]

/-- A mark of either case, or none. -/
def IsMark (mark : List Char) : Prop := mark = [] ∨ mark = ['0', 'x'] ∨ mark = ['0', 'X']

/-- At most one mark, and then one to 64 digits for the number. -/
structure Denotes (text : String) (n : Nat) : Prop where
  spelled : ∃ mark ds, text.toList = mark ++ ds ∧ IsMark mark ∧ 1 ≤ ds.length ∧ ds.length ≤ 64 ∧
    (∀ c ∈ ds, isDigit c = true) ∧ value ds = n

theorem exists_mark (text : String) :
    ∃ mark, text.toList = mark ++ digitsOf text ∧ IsMark mark := by
  rw [digitsOf]
  cases h : unmark? text.toList with
  | none => exact ⟨[], rfl, .inl rfl⟩
  | some ds =>
    obtain ⟨mark, htext, hmark⟩ := unmark?_eq_some.mp h
    refine ⟨['0', mark], htext, .inr ?_⟩
    rcases hmark with rfl | rfl <;> simp

/-- A mark is not made of digits, so only one way is left to take it off. -/
theorem digitsOf_eq {text : String} {mark ds : List Char} (htext : text.toList = mark ++ ds)
    (hmark : IsMark mark) (hdigits : ∀ c ∈ ds, isDigit c = true) : digitsOf text = ds := by
  rw [digitsOf, htext]
  rcases hmark with rfl | rfl | rfl
  · cases h : unmark? ([] ++ ds) with
    | none => rfl
    | some r =>
      obtain ⟨mark, rfl, hmark⟩ := unmark?_eq_some.mp h
      have hx := hdigits mark (by simp)
      rcases hmark with rfl | rfl <;> exact absurd hx (by decide)
  · rfl
  · rfl

/-- Digits up to the full number of them make the number of one seed. -/
theorem exists_of_denotes {text : String} {n : Nat} (h : Denotes text n) :
    ∃ s, ofHex text = .ok s ∧ s.number = n := by
  obtain ⟨mark, ds, htext, hmark, hpos, hlen, hdigits, rfl⟩ := h.spelled
  have hds := digitsOf_eq htext hmark hdigits
  have hfull : (pad ds).length = 64 := by rw [length_pad, max_eq_left hlen]
  obtain ⟨s, hs⟩ := exists_spelled hfull (digits_pad.mpr hdigits)
  refine ⟨s, ofHex_eq_ok.mpr ?_, ?_⟩
  · rw [hds]
    exact ⟨List.ne_nil_of_length_pos hpos, hlen, hs⟩
  · rw [number, hs.value_eq, value_pad]

theorem denotes_of_ofHex {text : String} {s : Seed} (h : ofHex text = .ok s) :
    Denotes text s.number := by
  obtain ⟨hne, hlen, hs⟩ := ofHex_eq_ok.mp h
  obtain ⟨mark, htext, hmark⟩ := exists_mark text
  refine ⟨mark, digitsOf text, htext, hmark, List.length_pos_iff.mpr hne, hlen, ?_, ?_⟩
  · exact digits_pad.mp hs.digits
  · rw [number, hs.value_eq, value_pad]

theorem ofHex_eq_error {text : String} {e : Error} (h : ofHex text = .error e) :
    ∃ f, e = .invalidParameter f := by
  unfold ofHex at h
  dsimp only at h
  split_ifs at h
  · exact ⟨_, (Except.error.inj h).symm⟩
  · obtain ⟨f, _, rfl⟩ := mapError_eq_error.mp h
    exact ⟨_, rfl⟩

theorem ofHex_of_foreign {text : String} (h : ∀ n, ¬ Denotes text n) :
    ∃ f, ofHex text = .error (.invalidParameter f) :=
  exists_invalidParameter (fun s hs => h s.number (denotes_of_ofHex hs)) fun _ => ofHex_eq_error

/-- A mark and all digits of a seed, in lower case. -/
structure Printed (text : String) : Prop where
  spelled : ∃ ds, text = String.ofList ('0' :: 'x' :: ds) ∧ ds.length = 64 ∧
    ∀ c ∈ ds, IsLowerDigit c

theorem printed_toHex (s : Seed) : Printed s.toHex := by
  refine ⟨bytesDigits s.bytes.toList, rfl, ?_, isLowerDigit_bytesDigits s.bytes.toList⟩
  rw [length_bytesDigits, Vector.length_toList]

/-- A printed seed reads as itself. -/
theorem ofHex_toHex (s : Seed) : ofHex s.toHex = .ok s := by
  have hspells : Spells (bytesDigits s.bytes.toList) s.bytes.toList :=
    bytes?_eq_some.mp (bytes?_bytesDigits s.bytes.toList)
  have hlen : (bytesDigits s.bytes.toList).length = 64 := by
    rw [length_bytesDigits, Vector.length_toList]
  have htext : s.toHex.toList = ['0', 'x'] ++ bytesDigits s.bytes.toList := String.toList_ofList
  have hdigits := digitsOf_eq htext (.inr (.inl rfl)) hspells.digits
  have hpad : pad (bytesDigits s.bytes.toList) = bytesDigits s.bytes.toList := by
    rw [pad, hlen]
    rfl
  rw [ofHex_eq_ok, hdigits, hpad, hlen]
  exact ⟨List.ne_nil_of_length_pos (by omega), le_rfl, hspells⟩

/-- Exactly the texts that denote a number are read, as the seed of that number, so two of them give
one seed when they denote one number. Every seed has a printed text, which gives it back. -/
theorem ofHex_reads_numbers :
    (∀ text n, Denotes text n → ∃ s, ofHex text = .ok s ∧ s.number = n) ∧
    (∀ text, (∀ n, ¬ Denotes text n) → ∃ f, ofHex text = .error (.invalidParameter f)) ∧
    (∀ s : Seed, Printed s.toHex ∧ ofHex s.toHex = .ok s) ∧
    ∀ text other n m, Denotes text n → Denotes other m → (ofHex text = ofHex other ↔ n = m) := by
  refine ⟨fun _ _ => exists_of_denotes, fun _ => ofHex_of_foreign,
    fun s => ⟨printed_toHex s, ofHex_toHex s⟩, fun text other n m ht ho => ?_⟩
  obtain ⟨s, hs, rfl⟩ := exists_of_denotes ht
  obtain ⟨t, hread, rfl⟩ := exists_of_denotes ho
  rw [hs, hread, Except.ok.injEq, number_inj]

end ProofTrial.Seed
