import ProofTrial.Claim.Corruption
import ProofTrial.Proofs.BitFlip
import ProofTrial.Proofs.Random.Range

/-! One bit of one character of a message. The bits that are turned over choose among the 256 code
points of a block, and blocks are all of characters or all of none, so a message that is not empty
can be changed any number of times. -/
namespace ProofTrial.Corruption

variable {σ : Type} [RandomSource σ]

/-- The blocks of 256 code points are all of characters or all of none. -/
theorem isValidChar_xor {n bit : Nat} (h : n.isValidChar) (hb : bit ≤ maxCharBit) :
    (n ^^^ 2 ^ bit).isValidChar := by
  have hsmall : 2 ^ bit / 2 ^ 8 = 0 := by
    apply Nat.div_eq_of_lt
    exact Nat.pow_lt_pow_right (by decide) (by simp only [maxCharBit] at hb; omega)
  have hblock : (n ^^^ 2 ^ bit) / 2 ^ 8 = n / 2 ^ 8 := by
    rw [Nat.xor_div_two_pow, hsmall, Nat.xor_zero]
  rcases h with h | ⟨hlo, hhi⟩
  · left
    omega
  · right
    omega

theorem flipCodePoint_ok (c : Char) {bit : Nat} (hb : bit ≤ maxCharBit) :
    ∃ d, flipCodePoint bit c = .ok d ∧ d.toNat = c.toNat ^^^ 2 ^ bit := by
  have hv : (c.toNat ^^^ 2 ^ bit).isValidChar := isValidChar_xor c.valid hb
  refine ⟨Char.ofNat (c.toNat ^^^ 2 ^ bit), ?_, ?_⟩
  · simp only [flipCodePoint]
    exact if_pos hv
  · rw [Char.ofNat, dif_pos hv]
    rfl

/-- Code points of characters lie below the surrogates or above them, and not beyond the last. -/
theorem code_bounds (c : Char) {bit : Nat} (hb : bit ≤ maxCharBit) :
    ¬ (0xd800 ≤ c.toNat ^^^ 2 ^ bit ∧ c.toNat ^^^ 2 ^ bit ≤ 0xdfff) ∧
      c.toNat ^^^ 2 ^ bit ≤ 0x10ffff := by
  have hv : (c.toNat ^^^ 2 ^ bit).isValidChar := isValidChar_xor c.valid hb
  rcases hv with h | ⟨hlo, hhi⟩ <;> omega

/-- The messages differ in one character, and its code points in one bit. -/
structure TurnsCharacter (before after : String) (place bit : Nat) : Prop where
  length : after.length = before.length
  bit_le : bit ≤ 7
  elsewhere : ∀ j, j ≠ place → after.toList[j]? = before.toList[j]?
  character : ∃ c d, before.toList[place]? = some c ∧ after.toList[place]? = some d ∧
    ∀ k, c.toNat.testBit k ≠ d.toNat.testBit k ↔ k = bit

theorem TurnsCharacter.ne {before after : String} {place bit : Nat}
    (h : TurnsCharacter before after place bit) : after ≠ before := by
  rintro rfl
  obtain ⟨c, d, hc, hd, hbits⟩ := h.character
  obtain rfl := Option.some.inj (hc.symm.trans hd)
  exact (hbits bit).mpr rfl rfl

theorem turnsCharacter_set {cs : List Char} {place bit : Nat} (hp : place < cs.length)
    (hb : bit ≤ maxCharBit) {d : Char} (hd : d.toNat = cs[place].toNat ^^^ 2 ^ bit) :
    TurnsCharacter (String.ofList cs) (String.ofList (cs.set place d)) place bit where
  length := by simp
  bit_le := hb
  elsewhere := by
    intro j hj
    rw [String.toList_ofList, String.toList_ofList, List.getElem?_set_ne hj.symm]
  character := by
    refine ⟨cs[place], d, ?_, ?_, ?_⟩
    · rw [String.toList_ofList, List.getElem?_eq_getElem hp]
    · rw [String.toList_ofList, List.getElem?_set_self hp]
    · rw [hd]
      exact testBit_xor_two_pow _ bit

/-- The draws alone say which character is changed and which of its bits. -/
theorem flipCharBit_of_draws {message : String} {n : Nat} (hn : 0 < n)
    (hlen : message.toList.length = n) {s t u : σ} {place : Fin n} {bit : Fin (maxCharBit + 1)}
    (hplace : Random.index n hn s = (place, t))
    (hbit : Random.below32 (maxCharBit + 1) (by decide) t = (bit, u)) :
    ∃ text, flipCharBit message s = (.ok text, u) ∧ TurnsCharacter message text place bit := by
  subst hlen
  have hb : bit.val ≤ maxCharBit := Nat.le_of_lt_succ bit.isLt
  obtain ⟨d, hflip, hd⟩ := flipCodePoint_ok (message.toList.get place) hb
  refine ⟨String.ofList (message.toList.set place d), ?_, ?_⟩
  · simp only [flipCharBit, dif_pos hn, hplace, hbit, hflip]
  · have hturns := turnsCharacter_set place.isLt hb hd
    rwa [String.ofList_toList] at hturns

theorem exists_turnsCharacter {message : String} (h : message ≠ "") (s : σ) :
    ∃ place bit text t, flipCharBit message s = (.ok text, t) ∧
      TurnsCharacter message text place bit := by
  have hpos : 0 < message.toList.length := List.length_pos_iff.mpr (by simpa using h)
  rcases hplace : Random.index message.toList.length hpos s with ⟨place, t⟩
  rcases hbit : Random.below32 (maxCharBit + 1) (by decide) t with ⟨bit, u⟩
  obtain ⟨text, hflip, hturns⟩ := flipCharBit_of_draws hpos rfl hplace hbit
  exact ⟨place, bit, text, u, hflip, hturns⟩

/-- One change after the other, until one fails. -/
def flipTimes : Nat → String → σ → Except Error String × σ
  | 0, text, s => (.ok text, s)
  | count + 1, text, s =>
    match flipCharBit text s with
    | (.error e, s) => (.error e, s)
    | (.ok text, s) => flipTimes count text s

/-- Changed messages are no shorter, so there is a character to change each time. -/
theorem flipTimes_ok (count : Nat) {message : String} (h : message ≠ "") (s : σ) :
    ∃ text t, flipTimes count message s = (.ok text, t) ∧ text.length = message.length := by
  induction count generalizing message s with
  | zero => exact ⟨message, s, rfl, rfl⟩
  | succ count ih =>
    obtain ⟨place, bit, text, t, hflip, hturns⟩ := exists_turnsCharacter h s
    have hne : text ≠ "" := by
      rintro rfl
      exact h (String.length_eq_zero_iff.mp hturns.length.symm)
    obtain ⟨last, u, hrest, hlen⟩ := ih hne t
    exact ⟨last, u, by rw [flipTimes, hflip]; exact hrest, hlen.trans hturns.length⟩

theorem flipCharBit_reaches {message : String} (hlen : message.length ≤ 2 ^ 64) {place bit : Nat}
    (hp : place < message.length) (hb : bit ≤ 7) : ∃ draws : WordCycle, ∃ text t,
      flipCharBit message draws = (.ok text, t) ∧ TurnsCharacter message text place bit := by
  have hl : message.toList.length = message.length := String.length_toList
  have hpos : 0 < message.length := Nat.zero_lt_of_lt hp
  obtain ⟨draws, hplace, hbit⟩ := Random.exists_source_index_below32 hpos hlen ⟨place, hp⟩
    (m := maxCharBit + 1) (by decide) (by decide) ⟨bit, Nat.lt_succ_of_le hb⟩
  obtain ⟨text, hflip, hturns⟩ :=
    flipCharBit_of_draws hpos hl (Prod.ext hplace rfl) (Prod.ext hbit rfl)
  exact ⟨draws, text, _, hflip, hturns⟩

/-- A message that is not empty is changed in one bit of one character, however often, and every
character and bit are changed for some source. The changed code point is never a surrogate and
never beyond the last. An empty message is refused before anything is drawn. -/
theorem flipCharBit_never_fails :
    (∀ s : σ, flipCharBit "" s = (.error (.invalidParameter .messageEmpty), s)) ∧
    (∀ message ≠ "",
      (∀ s : σ, ∃ place bit text t, flipCharBit message s = (.ok text, t) ∧
        TurnsCharacter message text place bit) ∧
      (∀ (count : Nat) (s : σ), ∃ text t, flipTimes count message s = (.ok text, t) ∧
        text.length = message.length) ∧
      -- A message in memory has fewer characters than there are words to number them.
      (message.length ≤ 2 ^ 64 → ∀ place < message.length, ∀ bit ≤ 7, ∃ draws : WordCycle,
        ∃ text t, flipCharBit message draws = (.ok text, t) ∧
          TurnsCharacter message text place bit)) ∧
    ∀ (c : Char), ∀ bit ≤ 7,
      ¬ (0xd800 ≤ c.toNat ^^^ 2 ^ bit ∧ c.toNat ^^^ 2 ^ bit ≤ 0xdfff) ∧
        c.toNat ^^^ 2 ^ bit ≤ 0x10ffff := by
  refine ⟨fun _ => rfl, fun message h => ⟨exists_turnsCharacter h, ?_, ?_⟩, ?_⟩
  · exact fun count => flipTimes_ok count h
  · exact fun hlen place hp bit hb => flipCharBit_reaches hlen hp hb
  · exact fun c bit hb => code_bounds c hb

end ProofTrial.Corruption
