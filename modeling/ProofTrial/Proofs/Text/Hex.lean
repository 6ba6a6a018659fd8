import ProofTrial.Text.Hex
import Mathlib.Tactic

/-! Hexadecimal digits and what is written with them: digit pairs read as the bytes they were
printed for, and the digits of a number are its one written form. -/
namespace ProofTrial

@[simp] theorem mapError_ok (f : ε → ε') (a : α) : (Except.ok a).mapError f = .ok a := rfl

@[simp] theorem mapError_error (f : ε → ε') (e : ε) :
    (Except.error e : Except ε α).mapError f = .error (f e) := rfl

theorem mapError_eq_ok {f : ε → ε'} {x : Except ε α} {a : α} :
    x.mapError f = .ok a ↔ x = .ok a := by
  cases x <;> simp

theorem mapError_eq_error {f : ε → ε'} {x : Except ε α} {e : ε'} :
    x.mapError f = .error e ↔ ∃ d, x = .error d ∧ f d = e := by
  cases x <;> simp

/-- `readAll` reads one item after the other, up to the first that does not read. -/
structure ReadsEach {ε α β : Type} (read : α → Except ε β)
    (readAll : List α → Except ε (List β)) : Prop where
  nil : readAll [] = .ok []
  cons : ∀ a as, readAll (a :: as) =
    match read a with
    | .error e => .error e
    | .ok b => (readAll as).map (b :: ·)

namespace ReadsEach

variable {ε α β : Type} {read : α → Except ε β} {readAll : List α → Except ε (List β)}

/-- A list reads exactly where each of its items does. -/
theorem eq_ok (h : ReadsEach read readAll) {as : List α} {bs : List β} :
    readAll as = .ok bs ↔ List.Forall₂ (fun a b => read a = .ok b) as bs := by
  induction as generalizing bs with
  | nil =>
    rw [h.nil, List.forall₂_nil_left_iff, Except.ok.injEq]
    exact eq_comm
  | cons a as ih =>
    rw [h.cons, List.forall₂_cons_left_iff]
    cases read a with
    | error e => simp
    | ok b =>
      simp only [Except.ok.injEq, ← ih]
      cases readAll as <;> simp [Except.map, eq_comm]

/-- It fails as one of them does. -/
theorem eq_error (h : ReadsEach read readAll) {as : List α} {e : ε} (he : readAll as = .error e) :
    ∃ a ∈ as, read a = .error e := by
  induction as with
  | nil =>
    rw [h.nil] at he
    contradiction
  | cons a as ih =>
    rw [h.cons] at he
    cases ha : read a with
    | error d =>
      simp only [ha, Except.error.injEq] at he
      exact ⟨a, List.mem_cons_self, he ▸ ha⟩
    | ok b =>
      cases hr : readAll as with
      | error d =>
        simp only [ha, hr, Except.map, Except.error.injEq] at he
        obtain ⟨c, hc, hce⟩ := ih (he ▸ hr)
        exact ⟨c, List.mem_cons_of_mem a hc, hce⟩
      | ok bs => simp [ha, hr, Except.map] at he

end ReadsEach

theorem exists_forall₂_iff {α β : Type} {r : α → β → Prop} {as : List α} :
    (∃ bs, List.Forall₂ r as bs) ↔ ∀ a ∈ as, ∃ b, r a b := by
  induction as with
  | nil => simp
  | cons a as ih =>
    simp only [List.forall₂_cons_left_iff, List.forall_mem_cons, ← ih]
    constructor
    · rintro ⟨_, b, bs, hb, hbs, rfl⟩
      exact ⟨⟨b, hb⟩, bs, hbs⟩
    · rintro ⟨⟨b, hb⟩, bs, hbs⟩
      exact ⟨b :: bs, b, bs, hb, hbs, rfl⟩

namespace Hex

theorem digitValue_digitChar : ∀ d < 16, digitValue? (Nat.digitChar d) = some d := by decide

theorem toNat_lt_of_isDigit {c : Char} (h : isDigit c = true) : c.toNat < 128 := by
  unfold isDigit digitValue? at h
  split_ifs at h with h0 ha hA
  · exact lt_of_le_of_lt (show c.toNat ≤ 57 from h0.2) (by decide)
  · exact lt_of_le_of_lt (show c.toNat ≤ 102 from ha.2) (by decide)
  · exact lt_of_le_of_lt (show c.toNat ≤ 70 from hA.2) (by decide)
  · simp at h

theorem forall_ascii {p : Char → Prop} (h : ∀ n < 128, p (Char.ofNat n)) {c : Char}
    (hc : c.toNat < 128) : p c := by
  have hp := h c.toNat hc
  rwa [Char.ofNat_toNat] at hp

/-- A fact about all digits is a fact about the first 128 characters. -/
theorem forall_digit {p : Char → Prop}
    (h : ∀ n < 128, isDigit (Char.ofNat n) = true → p (Char.ofNat n)) {c : Char}
    (hc : isDigit c = true) : p c :=
  forall_ascii (p := fun c => isDigit c = true → p c) h (toNat_lt_of_isDigit hc) hc

theorem utf8ByteSize_ofList_cons (c : Char) (cs : List Char) :
    (String.ofList (c :: cs)).utf8ByteSize = c.utf8Size + (String.ofList cs).utf8ByteSize := by
  have hcons : String.ofList (c :: cs) = String.singleton c ++ String.ofList cs := by
    rw [String.singleton_eq_ofList, ← String.ofList_append, List.singleton_append]
  rw [hcons, String.utf8ByteSize_append, String.utf8ByteSize_singleton]

theorem utf8Size_eq_one {c : Char} : c.utf8Size = 1 ↔ c.toNat < 128 := by
  rw [Char.utf8Size_eq_one_iff, UInt32.le_iff_toNat_le]
  exact Nat.lt_succ_iff.symm

/-- No character takes less than a byte. -/
theorem length_le_utf8ByteSize (cs : List Char) : cs.length ≤ (String.ofList cs).utf8ByteSize := by
  induction cs with
  | nil => exact Nat.zero_le _
  | cons c cs ih =>
    have hc := c.utf8Size_pos
    rw [utf8ByteSize_ofList_cons, List.length_cons]
    omega

/-- Exactly the characters below 128 take one byte each. -/
theorem utf8ByteSize_ofList_eq_length {cs : List Char} :
    (String.ofList cs).utf8ByteSize = cs.length ↔ ∀ c ∈ cs, c.toNat < 128 := by
  induction cs with
  | nil => simp
  | cons c cs ih =>
    have hc := c.utf8Size_pos
    have hle := length_le_utf8ByteSize cs
    rw [utf8ByteSize_ofList_cons, List.length_cons, List.forall_mem_cons, ← ih, ← utf8Size_eq_one]
    omega

/-- The bytes of characters below 128 are their numbers. -/
theorem toUTF8_ofList {cs : List Char} (h : ∀ c ∈ cs, c.toNat < 128) :
    (String.ofList cs).toUTF8.data.toList = cs.map fun c => UInt8.ofNat c.toNat := by
  rw [String.toUTF8_eq_toByteArray, String.toByteArray_ofList, List.utf8Encode,
    List.toList_data_toByteArray]
  induction cs with
  | nil => rfl
  | cons c cs ih =>
    have hc : c.val.toNat ≤ 127 := Nat.le_of_lt_succ (h c List.mem_cons_self)
    have he : String.utf8EncodeChar c = [UInt8.ofNat c.toNat] := if_pos hc
    rw [List.flatMap_cons, ih fun d hd => h d (List.mem_cons_of_mem c hd), he, List.map_cons,
      List.singleton_append]

theorem length_toUTF8 (text : String) : text.toUTF8.data.toList.length = text.utf8ByteSize := by
  rw [Array.length_toList, ← ByteArray.size, String.toUTF8_eq_toByteArray, String.size_toByteArray]

theorem toUTF8_injective {a b : String} (h : a.toUTF8.data.toList = b.toUTF8.data.toList) :
    a = b :=
  String.toByteArray_inj.mp (ByteArray.ext (Array.toList_inj.mp h))

theorem ofNat_byte {c : Char} (h : c.toNat < 128) :
    Char.ofNat (UInt8.ofNat c.toNat).toNat = c := by
  rw [UInt8.toNat_ofNat', Nat.mod_eq_of_lt (by omega), Char.ofNat_toNat]

theorem map_ofNat_bytes {ds : List Char} (h : ∀ c ∈ ds, c.toNat < 128) :
    (ds.map fun c => UInt8.ofNat c.toNat).map (fun b => Char.ofNat b.toNat) = ds := by
  rw [List.map_map]
  exact (List.map_congr_left fun c hc => ofNat_byte (h c hc)).trans (List.map_id _)

/-- Digits from zero to nine and from `a` to `f`. -/
def IsLowerDigit (c : Char) : Prop := ('0' ≤ c ∧ c ≤ '9') ∨ ('a' ≤ c ∧ c ≤ 'f')

instance (c : Char) : Decidable (IsLowerDigit c) := inferInstanceAs (Decidable (_ ∨ _))

theorem isLowerDigit_digitChar : ∀ d < 16, IsLowerDigit (Nat.digitChar d) := by decide

theorem isDigit_of_isLowerDigit {c : Char} (h : IsLowerDigit c) : isDigit c = true := by
  rcases h with h | h
  · simp [isDigit, digitValue?, h]
  · rw [isDigit, digitValue?]
    split_ifs <;> rfl

theorem isLowerDigit_bytesDigits (bs : List UInt8) : ∀ c ∈ bytesDigits bs, IsLowerDigit c := by
  intro c hc
  obtain ⟨b, _, hb⟩ := List.mem_flatMap.mp hc
  have hlt := b.toNat_lt
  rcases List.mem_cons.mp hb with rfl | hb
  · exact isLowerDigit_digitChar _ (by omega)
  · rw [List.mem_singleton.mp hb]
    exact isLowerDigit_digitChar _ (by omega)

theorem isDigit_bytesDigits (bs : List UInt8) : ∀ c ∈ bytesDigits bs, isDigit c = true :=
  fun c hc => isDigit_of_isLowerDigit (isLowerDigit_bytesDigits bs c hc)

theorem length_bytesDigits (bs : List UInt8) : (bytesDigits bs).length = 2 * bs.length := by
  induction bs with
  | nil => rfl
  | cons b bs ih =>
    rw [bytesDigits, List.flatMap_cons, List.length_append, ← bytesDigits, ih]
    simp only [byteDigits, List.length_cons, List.length_nil]
    omega

/-- The two digits of a byte tell it from every other byte. -/
theorem byteDigits_injective {a b : UInt8} (h : byteDigits a = byteDigits b) : a = b := by
  have ha := a.toNat_lt
  have hb := b.toNat_lt
  simp only [byteDigits, List.cons.injEq, and_true] at h
  have hd := congrArg digitValue? h.1
  have hm := congrArg digitValue? h.2
  rw [digitValue_digitChar _ (by omega), digitValue_digitChar _ (by omega)] at hd hm
  have hd := Option.some.inj hd
  have hm := Option.some.inj hm
  exact UInt8.toNat_inj.mp (by omega)

theorem bytesDigits_injective {as bs : List UInt8} (h : bytesDigits as = bytesDigits bs) :
    as = bs := by
  induction as generalizing bs with
  | nil =>
    cases bs with
    | nil => rfl
    | cons b bs => simp [bytesDigits, byteDigits] at h
  | cons a as ih =>
    cases bs with
    | nil => simp [bytesDigits, byteDigits] at h
    | cons b bs =>
      simp only [bytesDigits, List.flatMap_cons] at h
      obtain ⟨hab, ht⟩ := List.append_inj h rfl
      rw [byteDigits_injective hab, ih ht]

/-- Printed digit pairs read as their bytes. -/
theorem bytes?_bytesDigits (bs : List UInt8) : bytes? (bytesDigits bs) = some bs := by
  induction bs with
  | nil => rfl
  | cons b bs ih =>
    have hlt := b.toNat_lt
    have hb : 16 * (b.toNat / 16) + b.toNat % 16 = b.toNat := Nat.div_add_mod b.toNat 16
    have hcons : bytesDigits (b :: bs) =
        Nat.digitChar (b.toNat / 16) :: Nat.digitChar (b.toNat % 16) :: bytesDigits bs := rfl
    simp only [hcons, bytes?, digitValue_digitChar (b.toNat / 16) (by omega),
      digitValue_digitChar (b.toNat % 16) (by omega), ih, hb, UInt8.ofNat_toNat,
      Option.bind_eq_bind, Option.bind_some]

/-- Digits with a last one: those before it stand for sixteen times their number. -/
theorem value_concat (cs : List Char) (c : Char) :
    value (cs ++ [c]) = 16 * value cs + (digitValue? c).getD 0 := by
  rw [value, List.foldl_append]
  rfl

/-- Zeros in front leave the number as it is. -/
theorem value_zeros (count : Nat) (ds : List Char) :
    value (List.replicate count '0' ++ ds) = value ds := by
  induction count with
  | zero => rfl
  | succ count ih => exact ih

/-- The one written form of a number: a mark and lowercase digits, with no zero before others. -/
structure Canonical (text : String) (n : Nat) : Prop where
  spelled : ∃ ds, text = String.ofList ('0' :: 'x' :: ds) ∧ ds ≠ [] ∧ (∀ c ∈ ds, IsLowerDigit c) ∧
    (ds.head? = some '0' → ds = ['0']) ∧ value ds = n

theorem isLowerDigit_digits (n : Nat) : ∀ c ∈ digits n, IsLowerDigit c := by
  induction n using Nat.strongRecOn with
  | ind n ih =>
    intro c hc
    by_cases hn : n < 16
    · rw [digits, Nat.toDigits_of_lt_base hn] at hc
      rw [List.mem_singleton.mp hc]
      exact isLowerDigit_digitChar n hn
    · rw [digits, Nat.toDigits_of_base_le (by decide) (by omega)] at hc
      rcases List.mem_append.mp hc with hc | hc
      · exact ih (n / 16) (by omega) c hc
      · rw [List.mem_singleton.mp hc]
        exact isLowerDigit_digitChar (n % 16) (by omega)

theorem value_digits (n : Nat) : value (digits n) = n := by
  induction n using Nat.strongRecOn with
  | ind n ih =>
    by_cases hn : n < 16
    · rw [digits, Nat.toDigits_of_lt_base hn]
      simp [value, digitValue_digitChar n hn]
    · have hv := ih (n / 16) (by omega)
      rw [digits, Nat.toDigits_of_base_le (by decide) (by omega), value_concat,
        digitValue_digitChar (n % 16) (by omega), ← digits, hv]
      exact Nat.div_add_mod n 16

/-- Only zero is written with a zero in front. -/
theorem toDigits_head {b n : Nat} (hb : 1 < b) (hle : b ≤ 16)
    (h : (Nat.toDigits b n).head? = some '0') : n = 0 := by
  induction n using Nat.strongRecOn with
  | ind n ih =>
    by_cases hn : n < b
    · rw [Nat.toDigits_of_lt_base hn] at h
      have hd : ∀ k < 16, Nat.digitChar k = '0' → k = 0 := by decide
      exact hd n (hn.trans_le hle) (Option.some.inj h)
    · rw [Nat.toDigits_of_base_le hb (Nat.not_lt.mp hn),
        List.head?_append_of_ne_nil _ Nat.toDigits_ne_nil] at h
      have hz := ih (n / b) (Nat.div_lt_self (by omega) hb) h
      exact absurd (Nat.lt_of_div_eq_zero (by omega) hz) hn

theorem canonical_word (n : Nat) : Canonical (word n) n := by
  refine ⟨digits n, rfl, Nat.toDigits_ne_nil, isLowerDigit_digits n, ?_, value_digits n⟩
  intro h
  rw [toDigits_head (by decide) le_rfl h]
  rfl

end Hex
end ProofTrial
