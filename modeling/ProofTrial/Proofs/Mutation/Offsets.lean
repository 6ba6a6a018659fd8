import ProofTrial.Proofs.Mutation.Foreign
import ProofTrial.Proofs.Text.Utf8

/-! Raw operators by byte offsets. A text is cut where an offset falls between two characters, a
digit is changed in the bytes and these are read as text again, and a place is drawn where there is
one. With one byte for each character every such step of an operator exists, whatever the text and
whatever is drawn, and the result is ASCII again, its payload at most one character longer. -/
namespace ProofTrial

/-- The parts of a text before and behind a byte offset; absent where the offset falls inside a
character or past the end. -/
def Text.splitAt? (text : String) (offset : Nat) : Option (String × String) :=
  if h : String.Pos.Raw.IsValid text ⟨offset⟩ then
    let p : text.Pos := ⟨⟨offset⟩, h⟩
    some ((text.sliceTo p).copy, (text.sliceFrom p).copy)
  else none

theorem Text.splitAt?_eq_some {text front back : String} {offset : Nat} :
    splitAt? text offset = some (front, back) ↔
      text = front ++ back ∧ front.utf8ByteSize = offset := by
  constructor
  · intro h
    rw [splitAt?] at h
    split_ifs at h with hv
    obtain ⟨rfl, rfl⟩ := Prod.mk.inj (Option.some.inj h)
    have hs := String.Pos.splits (⟨⟨offset⟩, hv⟩ : text.Pos)
    exact ⟨hs.eq_append, congrArg String.Pos.Raw.byteIdx hs.offset_eq_rawEndPos.symm⟩
  · rintro ⟨rfl, rfl⟩
    have hv : String.Pos.Raw.IsValid (front ++ back) ⟨front.utf8ByteSize⟩ :=
      String.Pos.Raw.isValid_iff_exists_append.mpr ⟨front, back, rfl, rfl⟩
    have hs := String.Pos.splits (⟨⟨front.utf8ByteSize⟩, hv⟩ : (front ++ back).Pos)
    have hparts : String.Pos.Splits (⟨⟨front.utf8ByteSize⟩, hv⟩ : (front ++ back).Pos) front back :=
      ⟨rfl, rfl⟩
    rw [splitAt?, dif_pos hv]
    dsimp only
    rw [hs.eq_left hparts, hs.eq_right hparts]

/-- A draw below `n`; absent where there is nothing to draw from. -/
def Random.draw? {σ : Type} (draw : (n : Nat) → 0 < n → σ → Fin n × σ) (n : Nat) (s : σ) :
    Option (Nat × σ) :=
  if h : 0 < n then
    let (i, s) := draw n h s
    some (i.val, s)
  else none

theorem Random.draw?_eq_some {σ : Type} {draw : (n : Nat) → 0 < n → σ → Fin n × σ} {n : Nat}
    (h : 0 < n) {s t : σ} {i : Fin n} (hi : draw n h s = (i, t)) :
    draw? draw n s = some (i.val, t) := by
  rw [draw?, dif_pos h, hi]

namespace ProofHex

/-- The digits put in pairs, by the number of their bytes. -/
def alignedText (payload : String) : String :=
  if payload = "" ∨ payload = "0" then ""
  else if payload.utf8ByteSize % 2 = 1 then "0" ++ payload
  else payload

def digitTable : Array UInt8 := "0123456789abcdef".toUTF8.data

/-- The byte of the digit that differs in one bit, looked up in the table. -/
def flipByte? (bit : Nat) (b : UInt8) : Option UInt8 := do
  let value := UInt8.ofNat ((Hex.digitValue? (Char.ofNat b.toNat)).getD 0)
  let lower ← digitTable[((value ^^^ (1 <<< UInt8.ofNat bit)) &&& 0xf).toNat]?
  return if 65 ≤ b && b ≤ 90 && 97 ≤ lower then lower - 32 else lower

end ProofHex

namespace Mutation
open ProofHex

variable {σ : Type} [RandomSource σ]

def truncateText? (digits : String) : Option String :=
  if digits.utf8ByteSize ≤ 2 then some emptyProof
  else do
    let (front, _) ← Text.splitAt? digits (digits.utf8ByteSize - 2)
    return "0x" ++ front

def removeByteText? (digits : String) (s : σ) : Option (String × σ) :=
  if digits.utf8ByteSize ≤ 2 then some (emptyProof, s)
  else do
    let (i, s) ← Random.draw? Random.index (digits.utf8ByteSize / 2) s
    let (front, _) ← Text.splitAt? digits (2 * i)
    let (_, back) ← Text.splitAt? digits (2 * i + 2)
    return ("0x" ++ front ++ back, s)

def flipBitText? (payload : String) (s : σ) : Option (String × σ) :=
  if payload = "" ∨ payload = "0" then some (emptyProof, s)
  else do
    let (i, s) ← Random.draw? Random.index payload.utf8ByteSize s
    let (bit, s) ← Random.draw? Random.below32 4 s
    let bytes := payload.toUTF8.data
    let old ← bytes[i]?
    let new ← flipByte? bit old
    return ("0x" ++ Text.ofBytesLossy ⟨bytes.setIfInBounds i new⟩, s)

/-- The raw operator on bytes; absent where a cut, an index or a draw it makes does not exist. -/
def transform? (m : Mutation) (text : String) (s : σ) : Option (String × σ) :=
  let payload := String.ofList (payload text)
  if (ProofHex.payload text).all isAscii then
    match m with
    | identity => some (text, s)
    | empty => some (emptyProof, s)
    | truncateLastByte => (truncateText? (alignedText payload)).map (·, s)
    | removeRandomByte => removeByteText? (alignedText payload) s
    | flipRandomBit => flipBitText? payload s
  else some (text, s)

end Mutation

section Ascii

variable {ds : List Char} (h : ∀ c ∈ ds, c.toNat < 128)
include h

theorem Text.splitAt?_ofList {k : Nat} (hk : k ≤ ds.length) :
    splitAt? (String.ofList ds) k = some (String.ofList (ds.take k), String.ofList (ds.drop k)) := by
  have hfront : ∀ c ∈ ds.take k, c.toNat < 128 := fun c hc => h c (List.mem_of_mem_take hc)
  rw [splitAt?_eq_some, ← String.ofList_append, List.take_append_drop,
    Hex.utf8ByteSize_ofList_eq_length.mpr hfront, List.length_take, Nat.min_eq_left hk]
  exact ⟨rfl, rfl⟩

theorem ascii_modify {i : Nat} (hi : i < ds.length) {f : Char → Char}
    (hf : (f ds[i]).toNat < 128) : ∀ c ∈ ds.modify i f, c.toNat < 128 := by
  intro c hc
  rw [List.modify_eq_take_cons_drop hi] at hc
  rcases List.mem_append.mp hc with hc | hc
  · exact h c (List.mem_of_mem_take hc)
  · rcases List.mem_cons.mp hc with rfl | hc
    · exact hf
    · exact h c (List.mem_of_mem_drop hc)

/-- A byte in the place of another is a character in the place of another. -/
theorem Text.ofBytesLossy_setIfInBounds {i : Nat} (hi : i < ds.length) {f : Char → Char}
    (hf : (f ds[i]).toNat < 128) :
    ofBytesLossy ⟨(String.ofList ds).toUTF8.data.setIfInBounds i (UInt8.ofNat (f ds[i]).toNat)⟩ =
      String.ofList (ds.modify i f) := by
  have hset : ds.modify i f = ds.set i (f ds[i]) := by
    rw [List.modify_eq_take_cons_drop hi, List.set_eq_take_append_cons_drop, if_pos hi]
  have hbytes : (String.ofList (ds.modify i f)).toUTF8 =
      ⟨(String.ofList ds).toUTF8.data.setIfInBounds i (UInt8.ofNat (f ds[i]).toNat)⟩ := by
    apply ByteArray.ext
    apply Array.toList_inj.mp
    rw [Hex.toUTF8_ofList (ascii_modify h hi hf), Array.toList_setIfInBounds, Hex.toUTF8_ofList h,
      hset, List.map_set]
  rw [← hbytes, ofBytesLossy_toUTF8]

end Ascii

namespace ProofHex

theorem ofList_eq_empty {ds : List Char} : String.ofList ds = "" ↔ ds = [] :=
  @String.ofList_inj ds []

theorem ofList_eq_zero {ds : List Char} : String.ofList ds = "0" ↔ ds = ['0'] :=
  @String.ofList_inj ds ['0']

theorem mark_append (ds : List Char) : "0x" ++ String.ofList ds = ofPayload ds :=
  (@String.ofList_append ['0', 'x'] ds).symm

theorem mark_append_append (ds es : List Char) :
    "0x" ++ String.ofList ds ++ String.ofList es = ofPayload (ds ++ es) := by
  rw [String.append_assoc, ← String.ofList_append, mark_append]

theorem alignedText_ofList {ds : List Char} (h : ∀ c ∈ ds, c.toNat < 128) :
    alignedText (String.ofList ds) = String.ofList (aligned ds) := by
  simp only [alignedText, aligned, ofList_eq_empty, ofList_eq_zero,
    Hex.utf8ByteSize_ofList_eq_length.mpr h]
  split_ifs
  · rfl
  · exact (@String.ofList_append ['0'] ds).symm
  · rfl

theorem ascii_aligned {ds : List Char} (h : ∀ c ∈ ds, c.toNat < 128) :
    ∀ c ∈ aligned ds, c.toNat < 128 := by
  rw [aligned]
  split_ifs
  · simp
  · exact List.forall_mem_cons.mpr ⟨by decide, h⟩
  · exact h

theorem length_aligned_le (ds : List Char) : (aligned ds).length ≤ ds.length + 1 := by
  rw [aligned]
  split_ifs
  · exact Nat.zero_le _
  · exact le_rfl
  · exact Nat.le_succ _

/-- The table has every digit that is looked up, also for a character that is none. -/
theorem flipByte?_ofNat {c : Char} (hc : c.toNat < 128) {bit : Nat} (hb : bit < 4) :
    flipByte? bit (UInt8.ofNat c.toNat) = some (UInt8.ofNat (flipDigit (2 ^ bit) c).toNat) ∧
      (flipDigit (2 ^ bit) c).toNat < 128 := by
  have hall : ∀ n < 128, ∀ b < 4,
      flipByte? b (UInt8.ofNat (Char.ofNat n).toNat) =
          some (UInt8.ofNat (flipDigit (2 ^ b) (Char.ofNat n)).toNat) ∧
        (flipDigit (2 ^ b) (Char.ofNat n)).toNat < 128 := by decide +kernel
  exact Hex.forall_ascii (p := fun c => ∀ b < 4,
    flipByte? b (UInt8.ofNat c.toNat) = some (UInt8.ofNat (flipDigit (2 ^ b) c).toNat) ∧
      (flipDigit (2 ^ b) c).toNat < 128) hall hc bit hb

/-- What an operator may leave of a payload in ASCII. -/
structure Clean (ds : List Char) (out : String) : Prop where
  ascii : ∀ c ∈ out.toList, c.toNat < 128
  length : (payload out).length ≤ ds.length + 1

theorem mem_payload_or_mark {text : String} {c : Char} (h : c ∈ text.toList) :
    c ∈ payload text ∨ c = '0' ∨ c = 'x' := by
  rw [payload]
  split
  next hl =>
    rw [hl] at h
    rcases List.mem_cons.mp h with rfl | h
    · exact .inr (.inl rfl)
    · exact (List.mem_cons.mp h).symm.imp_right .inr
  next => exact .inl h

theorem clean_self {text : String} (h : ∀ c ∈ payload text, c.toNat < 128) :
    Clean (payload text) text where
  ascii := by
    intro c hc
    rcases mem_payload_or_mark hc with hc | rfl | rfl
    · exact h c hc
    · decide
    · decide
  length := Nat.le_succ _

theorem clean_ofPayload {ds es : List Char} (h : ∀ c ∈ es, c.toNat < 128)
    (hl : es.length ≤ ds.length + 1) : Clean ds (ofPayload es) := by
  have hpayload := payload_ofPayload es
  exact ⟨(clean_self (by rwa [hpayload])).ascii, by rwa [hpayload]⟩

theorem clean_emptyProof (ds : List Char) : Clean ds emptyProof :=
  clean_ofPayload (List.forall_mem_singleton.mpr (by decide : '0'.toNat < 128))
    (Nat.le_add_left 1 ds.length)

end ProofHex

namespace Mutation
open ProofHex

variable {σ : Type} [RandomSource σ] {ds es : List Char}

section Steps

variable (h : ∀ c ∈ ds, c.toNat < 128)
include h

theorem truncateText?_ofList : truncateText? (String.ofList ds) = some (truncate ds) := by
  rw [truncateText?, truncate, Hex.utf8ByteSize_ofList_eq_length.mpr h]
  split_ifs with hshort
  · rfl
  · rw [Text.splitAt?_ofList h (Nat.sub_le _ _)]
    exact congrArg some (mark_append _)

theorem removeByteText?_ofList (s : σ) :
    removeByteText? (String.ofList ds) s = some (removeByte ds s) := by
  rw [removeByteText?, removeByte, Hex.utf8ByteSize_ofList_eq_length.mpr h]
  split_ifs with hshort
  · rfl
  · have hpos : 0 < ds.length / 2 := by omega
    rcases hdraw : Random.index (ds.length / 2) hpos s with ⟨i, t⟩
    -- The byte drawn ends within the digits, so both cuts around it do.
    have hstop : 2 * i.val + 2 ≤ ds.length := by omega
    simp only [Random.draw?_eq_some hpos hdraw, Option.bind_eq_bind, Option.bind_some,
      Text.splitAt?_ofList h hstop, Text.splitAt?_ofList h (Nat.le_of_add_right_le hstop),
      mark_append_append]
    rfl

theorem flipBitText?_ofList (s : σ) :
    flipBitText? (String.ofList ds) s = some (flipBit ds s) := by
  by_cases hnone : ds = [] ∨ ds = ['0']
  · rw [flipBitText?, flipBit, dif_pos hnone, if_pos (by rwa [ofList_eq_empty, ofList_eq_zero])]
  · have hpos : 0 < ds.length := List.length_pos_iff.mpr fun he => hnone (.inl he)
    rw [flipBitText?, flipBit, dif_neg hnone, if_neg (by rwa [ofList_eq_empty, ofList_eq_zero]),
      Hex.utf8ByteSize_ofList_eq_length.mpr h]
    rcases hplace : Random.index ds.length hpos s with ⟨i, t⟩
    rcases hbit : Random.below32 4 (by decide) t with ⟨bit, u⟩
    have hold : (String.ofList ds).toUTF8.data[i.val]? = some (UInt8.ofNat ds[i.val].toNat) := by
      rw [← Array.getElem?_toList, Hex.toUTF8_ofList h]
      simp
    obtain ⟨hflip, hascii⟩ := flipByte?_ofNat (h _ (List.getElem_mem i.isLt)) bit.isLt
    simp only [Random.draw?_eq_some hpos hplace, Random.draw?_eq_some (by decide) hbit,
      Option.bind_eq_bind, Option.bind_some, hold, hflip,
      Text.ofBytesLossy_setIfInBounds h i.isLt hascii, mark_append, hbit]
    rfl

theorem clean_flipBit (s : σ) : Clean ds (flipBit ds s).1 := by
  rw [flipBit]
  split_ifs with hnone
  · exact clean_emptyProof ds
  · generalize Random.index ds.length _ s = draw
    obtain ⟨i, t⟩ := draw
    dsimp only
    generalize Random.below32 4 _ t = draw
    obtain ⟨bit, u⟩ := draw
    have hflip := (flipByte?_ofNat (h _ (List.getElem_mem i.isLt)) bit.isLt).2
    refine clean_ofPayload (ascii_modify h i.isLt hflip) ?_
    rw [List.length_modify]
    exact Nat.le_succ _

end Steps

theorem clean_truncate (h : ∀ c ∈ es, c.toNat < 128) (hl : es.length ≤ ds.length + 1) :
    Clean ds (truncate es) := by
  rw [truncate]
  split_ifs
  · exact clean_emptyProof ds
  · refine clean_ofPayload (fun c hc => h c (List.mem_of_mem_take hc)) ?_
    rw [List.length_take]
    omega

theorem clean_removeByte (h : ∀ c ∈ es, c.toNat < 128) (hl : es.length ≤ ds.length + 1) (s : σ) :
    Clean ds (removeByte es s).1 := by
  rw [removeByte]
  split_ifs
  · exact clean_emptyProof ds
  · generalize Random.index (es.length / 2) _ s = draw
    obtain ⟨i, t⟩ := draw
    refine clean_ofPayload (fun c hc => ?_) ?_
    · rcases List.mem_append.mp hc with hc | hc
      · exact h c (List.mem_of_mem_take hc)
      · exact h c (List.mem_of_mem_drop hc)
    · rw [List.length_append, List.length_take, List.length_drop]
      omega

/-- On ASCII every cut, index and draw of an operator exists. -/
theorem transform?_of_ascii {text : String} (h : ∀ c ∈ payload text, c.toNat < 128) (m : Mutation)
    (s : σ) : m.transform? text s = some (m.transform text s) := by
  have haligned := ascii_aligned h
  simp only [transform?, transform, all_isAscii.mpr h, ↓reduceIte, alignedText_ofList h,
    truncateText?_ofList haligned, removeByteText?_ofList haligned, flipBitText?_ofList h]
  cases m <;> rfl

theorem clean_transform {text : String} (h : ∀ c ∈ payload text, c.toNat < 128) (m : Mutation)
    (s : σ) : Clean (payload text) (m.transform text s).1 := by
  have hlength := length_aligned_le (payload text)
  simp only [transform, all_isAscii.mpr h, ↓reduceIte]
  cases m with
  | identity => exact clean_self h
  | empty => exact clean_emptyProof _
  | truncateLastByte => exact clean_truncate (ascii_aligned h) hlength
  | removeRandomByte => exact clean_removeByte (ascii_aligned h) hlength s
  | flipRandomBit => exact clean_flipBit h s

/-- Whatever the text and whatever is drawn, an operator cuts, looks up and draws only where it can.
A text whose payload has a character of more than a byte is left alone; any other becomes a text in
ASCII whose payload is at most one character longer. -/
theorem transform_within_bounds (m : Mutation) (text : String) (s : σ) :
    m.transform? text s = some (m.transform text s) ∧
    ((∃ c ∈ payload text, 128 ≤ c.toNat) → m.transform text s = (text, s)) ∧
    ((∀ c ∈ payload text, c.toNat < 128) → Clean (payload text) (m.transform text s).1) := by
  refine ⟨?_, fun h => transform_of_wide h m s, fun h => clean_transform h m s⟩
  by_cases hwide : ∃ c ∈ payload text, 128 ≤ c.toNat
  · rw [transform_of_wide hwide]
    exact if_neg (not_all_isAscii hwide)
  · have hascii : ∀ c ∈ payload text, c.toNat < 128 :=
      fun c hc => Nat.not_le.mp fun hge => hwide ⟨c, hc, hge⟩
    exact transform?_of_ascii hascii m s

end Mutation

end ProofTrial
