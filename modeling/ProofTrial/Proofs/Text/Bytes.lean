import ProofTrial.BigEndian
import ProofTrial.Proofs.Text.Hex

/-! Digit pairs as bytes. `Spells` says which bytes a text of digits stands for, and `bytes?` reads
exactly those, so taking, leaving out and changing pairs takes, leaves out and changes bytes. The
number that the digits make is that of the bytes, and of bytes of one width no others make it. -/
namespace ProofTrial

namespace BigEndian

theorem value_concat (bs : List UInt8) (b : UInt8) :
    value (bs ++ [b]) = 256 * value bs + b.toNat := by
  rw [value, List.foldl_append]
  rfl

/-- The bytes of their number, at their own width, are the bytes. -/
theorem bytes_value (bs : List UInt8) : bytes bs.length (value bs) = bs := by
  induction bs using List.reverseRecOn with
  | nil => rfl
  | append_singleton bs b ih =>
    have hb := b.toNat_lt
    have hdiv : (256 * value bs + b.toNat) / 256 = value bs := by omega
    have hmod : (256 * value bs + b.toNat) % 256 = b.toNat := by omega
    rw [List.length_append, List.length_singleton, value_concat, bytes, hdiv, hmod, ih,
      UInt8.ofNat_toNat]

theorem value_inj {as bs : List UInt8} (hl : as.length = bs.length) :
    value as = value bs ↔ as = bs := by
  refine ⟨fun h => ?_, congrArg value⟩
  rw [← bytes_value as, hl, h, bytes_value]

/-- What a width has no room for is lost. -/
theorem value_bytes (width n : Nat) : value (bytes width n) = n % 256 ^ width := by
  induction width generalizing n with
  | zero => rw [Nat.pow_zero, Nat.mod_one]; rfl
  | succ width ih =>
    have hlast : (UInt8.ofNat (n % 256)).toNat = n % 256 := by
      rw [UInt8.toNat_ofNat', Nat.mod_mod]
    rw [bytes, value_concat, ih, hlast, Nat.pow_succ', Nat.mod_mul, Nat.add_comm]

/-- Words are told apart by eight bytes or more. -/
theorem bytes_toNat_inj {width : Nat} (hw : 8 ≤ width) {m n : UInt64} :
    bytes width m.toNat = bytes width n.toNat ↔ m = n := by
  refine ⟨fun h => ?_, congrArg fun k : UInt64 => bytes width k.toNat⟩
  have hroom : 2 ^ 64 ≤ 256 ^ width := Nat.pow_le_pow_right (n := 256) (by decide) hw
  have hv := congrArg value h
  rw [value_bytes, value_bytes, Nat.mod_eq_of_lt (m.toNat_lt.trans_le hroom),
    Nat.mod_eq_of_lt (n.toNat_lt.trans_le hroom)] at hv
  exact UInt64.toNat_inj.mp hv

end BigEndian

namespace Hex

theorem isDigit_iff {c : Char} : isDigit c = true ↔ ∃ v, digitValue? c = some v :=
  Option.isSome_iff_exists

theorem digitValue_lt {c : Char} {v : Nat} (h : digitValue? c = some v) : v < 16 := by
  have hall : ∀ n < 128, isDigit (Char.ofNat n) = true →
      ∀ v ∈ digitValue? (Char.ofNat n), v < 16 := by decide +kernel
  exact forall_digit (p := fun c => ∀ v ∈ digitValue? c, v < 16) hall (isDigit_iff.mpr ⟨v, h⟩) v h

/-- The bytes that pairs of digits stand for. -/
inductive Spells : List Char → List UInt8 → Prop where
  | nil : Spells [] []
  | cons {a b : Char} {x y : Nat} {ds : List Char} {bs : List UInt8} (upper : digitValue? a = some x)
      (lower : digitValue? b = some y) (rest : Spells ds bs) :
      Spells (a :: b :: ds) (UInt8.ofNat (16 * x + y) :: bs)

theorem bytes?_eq_some {ds : List Char} {bs : List UInt8} : bytes? ds = some bs ↔ Spells ds bs := by
  constructor
  · intro h
    fun_induction bytes? ds generalizing bs with
    | case1 => exact Option.some.inj h ▸ .nil
    | case2 c => contradiction
    | case3 a b r ih =>
      simp only [Option.bind_eq_bind, Option.bind_eq_some_iff] at h
      obtain ⟨x, hx, y, hy, cs, hcs, he⟩ := h
      exact Option.some.inj he ▸ .cons hx hy (ih hcs)
  · intro h
    induction h with
    | nil => rfl
    | cons upper lower rest ih => simp [bytes?, upper, lower, ih]

namespace Spells

theorem exists_of_digits : (ds : List Char) → ds.length % 2 = 0 →
    (∀ c ∈ ds, isDigit c = true) → ∃ bs, Spells ds bs
  | [], _, _ => ⟨[], .nil⟩
  | [_], heven, _ => by simp at heven
  | a :: b :: r, heven, h => by
    rw [List.length_cons, List.length_cons] at heven
    obtain ⟨x, hx⟩ := isDigit_iff.mp (h a (by simp))
    obtain ⟨y, hy⟩ := isDigit_iff.mp (h b (by simp))
    obtain ⟨bs, hbs⟩ := exists_of_digits r (by omega) fun c hc => h c (by simp [hc])
    exact ⟨_, .cons hx hy hbs⟩

variable {ds es : List Char} {bs cs : List UInt8} (h : Spells ds bs)
include h

theorem length : ds.length = 2 * bs.length := by
  induction h with
  | nil => rfl
  | cons upper lower rest ih =>
    simp only [List.length_cons]
    omega

theorem digits : ∀ c ∈ ds, isDigit c = true := by
  induction h with
  | nil => simp
  | cons upper lower rest ih =>
    intro c hc
    rcases List.mem_cons.mp hc with rfl | hc
    · exact isDigit_iff.mpr ⟨_, upper⟩
    · rcases List.mem_cons.mp hc with rfl | hc
      · exact isDigit_iff.mpr ⟨_, lower⟩
      · exact ih c hc

theorem take (i : Nat) : Spells (ds.take (2 * i)) (bs.take i) := by
  induction h generalizing i with
  | nil => simpa using Spells.nil
  | cons upper lower rest ih =>
    cases i with
    | zero => exact .nil
    | succ i => exact .cons upper lower (ih i)

theorem drop (i : Nat) : Spells (ds.drop (2 * i)) (bs.drop i) := by
  induction h generalizing i with
  | nil => simpa using Spells.nil
  | cons upper lower rest ih =>
    cases i with
    | zero => exact .cons upper lower rest
    | succ i => exact ih i

theorem append (he : Spells es cs) : Spells (ds ++ es) (bs ++ cs) := by
  induction h with
  | nil => exact he
  | cons upper lower rest ih => exact .cons upper lower ih

end Spells

/-- Pairs of digits make the number that their bytes make. -/
theorem Spells.value_eq {ds : List Char} {bs : List UInt8} (h : Spells ds bs) :
    BigEndian.value bs = value ds := by
  -- Two digits multiply what was read before by 256, from whatever number reading starts.
  have hfrom : ∀ n, bs.foldl (fun n b => 256 * n + b.toNat) n =
      ds.foldl (fun n c => 16 * n + (digitValue? c).getD 0) n := by
    induction h with
    | nil => exact fun _ => rfl
    | @cons a b x y ds bs upper lower rest ih =>
      intro n
      have hx := digitValue_lt upper
      have hy := digitValue_lt lower
      have hbyte : (UInt8.ofNat (16 * x + y)).toNat = 16 * x + y := by
        rw [UInt8.toNat_ofNat']
        omega
      have hpair : 256 * n + (16 * x + y) = 16 * (16 * n + x) + y := by omega
      rw [List.foldl_cons, List.foldl_cons, List.foldl_cons, ih, hbyte, upper, lower, hpair]
      rfl
  exact hfrom 0

/-- The bit of a byte that is a bit of its upper digit, at an even place, or of its lower one. -/
def byteBit (place bit : Nat) : Nat := if place % 2 = 0 then bit + 4 else bit

theorem byteBit_lt (place : Nat) {bit : Nat} (h : bit < 4) : byteBit place bit < 8 := by
  rw [byteBit]
  split_ifs <;> omega

theorem ofNat_xor_upper : ∀ x < 16, ∀ y < 16, ∀ bit < 4,
    UInt8.ofNat (16 * (x ^^^ 2 ^ bit) + y) =
      UInt8.ofNat (16 * x + y) ^^^ UInt8.ofNat (2 ^ (bit + 4)) := by
  decide +kernel

theorem ofNat_xor_lower : ∀ x < 16, ∀ y < 16, ∀ bit < 4,
    UInt8.ofNat (16 * x + (y ^^^ 2 ^ bit)) =
      UInt8.ofNat (16 * x + y) ^^^ UInt8.ofNat (2 ^ bit) := by
  decide +kernel

/-- A bit of a digit is a bit of its byte. -/
theorem Spells.modify {ds : List Char} {bs : List UInt8} (h : Spells ds bs) {f : Char → Char}
    {bit : Nat} (hb : bit < 4)
    (hf : ∀ c v, digitValue? c = some v → digitValue? (f c) = some (v ^^^ 2 ^ bit)) (i : Nat) :
    Spells (ds.modify i f) (bs.modify (i / 2) (· ^^^ UInt8.ofNat (2 ^ byteBit i bit))) := by
  induction h generalizing i with
  | nil => simpa using Spells.nil
  | cons upper lower rest ih =>
    have hx := digitValue_lt upper
    have hy := digitValue_lt lower
    match i with
    | 0 =>
      have hbyte := ofNat_xor_upper _ hx _ hy bit hb
      simpa [hbyte, byteBit] using Spells.cons (hf _ _ upper) lower rest
    | 1 =>
      have hbyte := ofNat_xor_lower _ hx _ hy bit hb
      simpa [hbyte, byteBit] using Spells.cons upper (hf _ _ lower) rest
    | i + 2 =>
      have hbit : byteBit (i + 2) bit = byteBit i bit := by simp [byteBit]
      have hplace : (i + 2) / 2 = i / 2 + 1 := by omega
      rw [hbit, hplace]
      exact .cons upper lower (ih i)

end Hex
end ProofTrial
