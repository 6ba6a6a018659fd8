import ProofTrial.Proofs.Text.Hex

/-! The spellings of a word. `Denotes` says which texts stand for a number of 64 bits, and reading
accepts exactly those, so whether a text is a word shows in its characters. One of the spellings of
a number is canonical, and it is the one that is written. -/
namespace ProofTrial.Hex

/-- A mark, at most one plus sign and at least one digit, whose number has 64 bits. Zeros may stand
in front of it. -/
structure Denotes (text : String) (n : Nat) : Prop where
  spelled : ∃ mark sign ds, text.toList = '0' :: mark :: (sign ++ ds) ∧
    (mark = 'x' ∨ mark = 'X') ∧ (sign = [] ∨ sign = ['+']) ∧ ds ≠ [] ∧
    (∀ c ∈ ds, isDigit c = true) ∧ value ds = n
  lt : n < wordLimit

/-- The number that digits make behind those of `n`. -/
def valueAfter (n : Nat) (cs : List Char) : Nat :=
  cs.foldl (fun n c => 16 * n + (digitValue? c).getD 0) n

theorem le_valueAfter (n : Nat) (cs : List Char) : n ≤ valueAfter n cs := by
  induction cs generalizing n with
  | nil => exact le_rfl
  | cons c cs ih =>
    have hstep : n ≤ 16 * n + (digitValue? c).getD 0 := by omega
    exact hstep.trans (ih _)

/-- Numbers only grow from digit to digit, so one that fits has fitted all along. -/
theorem readDigits_eq_ok {n m : Nat} {cs : List Char} (hn : n < wordLimit) :
    readDigits n cs = .ok m ↔
      (∀ c ∈ cs, isDigit c = true) ∧ valueAfter n cs = m ∧ m < wordLimit := by
  induction cs generalizing n with
  | nil =>
    simp only [readDigits, Except.ok.injEq, List.not_mem_nil, false_imp_iff, implies_true,
      true_and, valueAfter, List.foldl_nil]
    exact ⟨fun h => ⟨h, h ▸ hn⟩, And.left⟩
  | cons c cs ih =>
    have hfold : valueAfter n (c :: cs) = valueAfter (16 * n + (digitValue? c).getD 0) cs := rfl
    cases hc : digitValue? c with
    | none =>
      simp [readDigits, hc, isDigit]
    | some d =>
      have hd : isDigit c = true := by rw [isDigit, hc]; rfl
      rw [hc, Option.getD_some] at hfold
      simp only [readDigits, hc, List.forall_mem_cons, hd, true_and, hfold]
      split_ifs with hlt
      · exact ih hlt
      · have hle := le_valueAfter (16 * n + d) cs
        simp only [false_iff]
        rintro ⟨_, rfl, hm⟩
        omega

theorem readMagnitude_of_signed {r : List Char} (h : r ≠ []) :
    readMagnitude ('+' :: r) = readDigits 0 r := by
  obtain ⟨c, r, rfl⟩ := List.exists_cons_of_ne_nil h
  rfl

theorem readMagnitude_of_unsigned {c : Char} {r : List Char} (h : c ≠ '+') :
    readMagnitude (c :: r) = readDigits 0 (c :: r) := by
  unfold readMagnitude
  split <;> simp_all

/-- A plus sign is no digit, so a sign and digits come apart in one way. -/
theorem readMagnitude_eq_ok {cs : List Char} {n : Nat} :
    readMagnitude cs = .ok n ↔ ∃ sign ds, cs = sign ++ ds ∧ (sign = [] ∨ sign = ['+']) ∧ ds ≠ [] ∧
      (∀ c ∈ ds, isDigit c = true) ∧ value ds = n ∧ n < wordLimit := by
  have hzero : 0 < wordLimit := by decide
  constructor
  · intro h
    rcases cs with _ | ⟨c, r⟩
    · contradiction
    by_cases hc : c = '+'
    · subst hc
      have hr : r ≠ [] := by
        rintro rfl
        contradiction
      rw [readMagnitude_of_signed hr] at h
      exact ⟨['+'], r, rfl, .inr rfl, hr, (readDigits_eq_ok hzero).mp h⟩
    · rw [readMagnitude_of_unsigned hc] at h
      exact ⟨[], c :: r, rfl, .inl rfl, List.cons_ne_nil c r, (readDigits_eq_ok hzero).mp h⟩
  · rintro ⟨sign, ds, rfl, rfl | rfl, hne, hds, hn⟩
    · obtain ⟨c, r, rfl⟩ := List.exists_cons_of_ne_nil hne
      have hc : c ≠ '+' := by
        rintro rfl
        exact absurd (hds '+' List.mem_cons_self) (by decide)
      rw [List.nil_append, readMagnitude_of_unsigned hc]
      exact (readDigits_eq_ok hzero).mpr ⟨hds, hn⟩
    · rw [List.singleton_append, readMagnitude_of_signed hne]
      exact (readDigits_eq_ok hzero).mpr ⟨hds, hn⟩

theorem unmark?_eq_some {cs r : List Char} :
    unmark? cs = some r ↔ ∃ mark, cs = '0' :: mark :: r ∧ (mark = 'x' ∨ mark = 'X') := by
  constructor
  · intro h
    unfold unmark? at h
    split at h
    · exact ⟨'x', by rw [Option.some.inj h], .inl rfl⟩
    · exact ⟨'X', by rw [Option.some.inj h], .inr rfl⟩
    · contradiction
  · rintro ⟨mark, rfl, rfl | rfl⟩ <;> rfl

/-- Exactly the spellings of a word are read. -/
theorem readWord_eq_ok {text : String} {n : Nat} : readWord text = .ok n ↔ Denotes text n := by
  constructor
  · intro h
    unfold readWord at h
    split at h
    · contradiction
    next cs hcs =>
      obtain ⟨mark, htext, hmark⟩ := unmark?_eq_some.mp hcs
      obtain ⟨sign, ds, rfl, hsign, hne, hds, hn, hlt⟩ :=
        readMagnitude_eq_ok.mp (mapError_eq_ok.mp h)
      exact ⟨⟨mark, sign, ds, htext, hmark, hsign, hne, hds, hn⟩, hlt⟩
  · rintro ⟨⟨mark, sign, ds, htext, hmark, hsign, hne, hds, hn⟩, hlt⟩
    rw [readWord, unmark?_eq_some.mpr ⟨mark, htext, hmark⟩]
    exact mapError_eq_ok.mpr (readMagnitude_eq_ok.mpr ⟨sign, ds, rfl, hsign, hne, hds, hn, hlt⟩)

example : Denotes "0X+0fF" 255 := readWord_eq_ok.mp (by decide)

theorem Canonical.denotes {text : String} {n : Nat} (h : Canonical text n) (hn : n < wordLimit) :
    Denotes text n := by
  obtain ⟨ds, rfl, hne, hds, _, hv⟩ := h.spelled
  exact ⟨⟨'x', [], ds, String.toList_ofList, .inl rfl, .inl rfl, hne,
    fun c hc => isDigit_of_isLowerDigit (hds c hc), hv⟩, hn⟩

theorem digitChar_of_isLowerDigit {c : Char} (h : IsLowerDigit c) :
    ∃ d < 16, digitValue? c = some d ∧ Nat.digitChar d = c := by
  have hall : ∀ n < 128, isDigit (Char.ofNat n) = true → IsLowerDigit (Char.ofNat n) →
      ∃ d < 16, digitValue? (Char.ofNat n) = some d ∧ Nat.digitChar d = Char.ofNat n := by
    decide +kernel
  exact forall_digit (p := fun c => IsLowerDigit c → ∃ d < 16, digitValue? c = some d ∧
    Nat.digitChar d = c) hall (isDigit_of_isLowerDigit h) h

/-- Lowercase digits behind those of a number are those of the number they make with it. Zero has
a digit that would stay in front, so it is left out. -/
theorem digits_append {n : Nat} (hn : 0 < n) {cs : List Char} (h : ∀ c ∈ cs, IsLowerDigit c) :
    digits n ++ cs = digits (valueAfter n cs) := by
  induction cs generalizing n with
  | nil => exact List.append_nil _
  | cons c cs ih =>
    obtain ⟨hc, hcs⟩ := List.forall_mem_cons.mp h
    obtain ⟨d, hd, hvalue, hchar⟩ := digitChar_of_isLowerDigit hc
    have hnext : digits n ++ [c] = digits (16 * n + d) := by
      rw [digits, digits, ← Nat.toDigits_append_toDigits (by decide) hn hd,
        Nat.toDigits_of_lt_base hd, hchar]
    calc
      digits n ++ c :: cs = digits n ++ [c] ++ cs := by
        rw [List.append_assoc, List.singleton_append]
      _ = digits (16 * n + d) ++ cs := by rw [hnext]
      _ = digits (valueAfter (16 * n + d) cs) := ih (by omega) hcs
      _ = digits (valueAfter n (c :: cs)) := by
        rw [valueAfter, valueAfter, List.foldl_cons, hvalue, Option.getD_some]

theorem value_cons (c : Char) (cs : List Char) :
    value (c :: cs) = valueAfter ((digitValue? c).getD 0) cs := by
  rw [value, List.foldl_cons, Nat.mul_zero, Nat.zero_add]
  rfl

/-- Lowercase digits without a zero before others are those of their number. -/
theorem eq_digits_value {ds : List Char} (hne : ds ≠ []) (hds : ∀ c ∈ ds, IsLowerDigit c)
    (hzero : ds.head? = some '0' → ds = ['0']) : ds = digits (value ds) := by
  by_cases hhead : ds.head? = some '0'
  · rw [hzero hhead]
    rfl
  · obtain ⟨c, cs, rfl⟩ := List.exists_cons_of_ne_nil hne
    obtain ⟨hc, hcs⟩ := List.forall_mem_cons.mp hds
    obtain ⟨d, hd, hvalue, hchar⟩ := digitChar_of_isLowerDigit hc
    have hpos : 0 < d := by
      apply Nat.pos_of_ne_zero
      rintro rfl
      exact hhead (congrArg some hchar.symm)
    have hfirst : digits d = [c] := by rw [digits, Nat.toDigits_of_lt_base hd, hchar]
    rw [value_cons, hvalue, Option.getD_some, ← digits_append hpos hcs, hfirst,
      List.singleton_append]

/-- A number has no second written form. -/
theorem canonical_iff {text : String} {n : Nat} : Canonical text n ↔ text = word n := by
  refine ⟨fun h => ?_, fun h => h ▸ canonical_word n⟩
  obtain ⟨ds, rfl, hne, hds, hzero, rfl⟩ := h.spelled
  rw [word, ← eq_digits_value hne hds hzero]

/-- A printed word reads as its number. -/
theorem readWord_word {n : Nat} (h : n < wordLimit) : readWord (word n) = .ok n :=
  readWord_eq_ok.mpr ((canonical_word n).denotes h)

end ProofTrial.Hex
