import ProofTrial.Json.Printer
import ProofTrial.Json.Reader
import ProofTrial.Proofs.Text.Hex

/-! Strings and integers read back from their JSON texts, whatever follows them. -/
namespace ProofTrial.Json.Reader

/-- The piece that the escaped form of a character reads as. -/
def pieceOf (c : Char) : Piece :=
  if c.toNat < 0x20 ∧ c ≠ '\x08' ∧ c ≠ '\x0c' ∧ c ≠ '\n' ∧ c ≠ '\r' ∧ c ≠ '\t' then
    .unit c.toNat
  else .symbol (some c)

theorem pieces_quote (s : Symbols) : pieces (some '"' :: s) = ([], .ok s) := by
  rw [pieces.eq_def]
  simp

theorem pieces_escape (e k : Char) (s : Symbols) (hu : e ≠ 'u')
    (he : escaped? (some e) = some k) :
    pieces (some '\\' :: some e :: s) = (Piece.symbol (some k)).before (pieces s) := by
  rw [pieces.eq_def]
  simp [hu, he]

theorem pieces_unit (w x y z : Char) (n : Nat) (s : Symbols)
    (h : hexUnit? (some w) (some x) (some y) (some z) = some n) :
    pieces (some '\\' :: some 'u' :: some w :: some x :: some y :: some z :: s) =
      (Piece.unit n).before (pieces s) := by
  rw [pieces.eq_def]
  simp [h]

theorem pieces_symbol (c : Char) (s : Symbols) (hq : c ≠ '"') (hb : c ≠ '\\')
    (hc : ¬ c.toNat < 0x20) :
    pieces (some c :: s) = (Piece.symbol (some c)).before (pieces s) := by
  rw [pieces.eq_def]
  simp [hq, hb, isControl, hc]

theorem hexUnit_of_control {n : Nat} (h : n < 0x20) :
    hexUnit? (some '0') (some '0') (some (Nat.digitChar ((UInt8.ofNat n).toNat / 16)))
      (some (Nat.digitChar ((UInt8.ofNat n).toNat % 16))) = some n := by
  have hn : (UInt8.ofNat n).toNat = n := by
    rw [UInt8.toNat_ofNat']
    omega
  have hz : Hex.digitValue? '0' = some 0 := by decide
  have hd := Hex.digitValue_digitChar (n / 16) (by omega)
  have hm := Hex.digitValue_digitChar (n % 16) (by omega)
  simp only [hexUnit?, Option.bind_some, hn, hz, hd, hm, Option.bind_eq_bind]
  congr 1
  omega

theorem pieces_escapeChar (c : Char) (s : Symbols) :
    pieces ((escapeChar c).map some ++ s) = (pieceOf c).before (pieces s) := by
  rw [escapeChar]
  split_ifs with hq hb h8 hc hn hr ht hl
  · subst hq; exact pieces_escape '"' '"' s (by decide) rfl
  · subst hb; exact pieces_escape '\\' '\\' s (by decide) rfl
  · subst h8; exact pieces_escape 'b' '\x08' s (by decide) rfl
  · subst hc; exact pieces_escape 'f' '\x0c' s (by decide) rfl
  · subst hn; exact pieces_escape 'n' '\n' s (by decide) rfl
  · subst hr; exact pieces_escape 'r' '\r' s (by decide) rfl
  · subst ht; exact pieces_escape 't' '\t' s (by decide) rfl
  · rw [pieceOf, if_pos ⟨hl, h8, hc, hn, hr, ht⟩]
    exact pieces_unit _ _ _ _ _ s (hexUnit_of_control hl)
  · rw [pieceOf, if_neg fun h => hl h.1]
    exact pieces_symbol c s hq hb hl

theorem pieces_escaped (cs : List Char) (s : Symbols) :
    pieces ((cs.flatMap escapeChar ++ ['"']).map some ++ s) = (cs.map pieceOf, .ok s) := by
  induction cs with
  | nil => exact pieces_quote s
  | cons c cs ih =>
    rw [List.flatMap_cons, List.append_assoc, List.map_append, List.append_assoc,
      pieces_escapeChar, ih]
    rfl

theorem assemble_pieceOf (cs : List Char) : assemble (cs.map pieceOf) = .ok (cs, false) := by
  induction cs with
  | nil => rfl
  | cons c cs ih =>
    rw [List.map_cons, pieceOf]
    split_ifs with h
    · have ht : isTrailing c.toNat = false := by simp [isTrailing]; omega
      have hl : isLeading c.toNat = false := by simp [isLeading]; omega
      rw [assemble.eq_def]
      simp [ht, hl, ih, Except.map]
    · rw [assemble.eq_def]
      simp [ih, Except.map]

/-- A printed string reads as itself. -/
theorem textOf_pieceOf (s : String) : textOf (s.toList.map pieceOf) = .ok s := by
  have hc : (s.toList.map pieceOf).all isCharacter = true := by
    simp only [List.all_map, List.all_eq_true, Function.comp_apply]
    intro c _
    rw [pieceOf]
    split_ifs <;> rfl
  simp [textOf, assemble_pieceOf, hc]

/-- What may follow a number: nothing that would go on with it. -/
def Stops (s : Symbols) : Prop :=
  ∀ c, s.head? = some c → isDigit c = false ∧ c ≠ some '.' ∧ c ≠ some 'e' ∧ c ≠ some 'E'

theorem stops_nil : Stops [] := by simp [Stops]

theorem stops_cons {c : Char} {s : Symbols} (hd : c.isDigit = false) (hp : c ≠ '.')
    (he : c ≠ 'e') (hE : c ≠ 'E') : Stops (some c :: s) := by
  intro x hx
  obtain rfl : some c = x := Option.some.inj hx
  simp [isDigit, hd, hp, he, hE]

theorem exponentPart_of_stops {t : Numeral} {s : Symbols} (h : Stops s) :
    exponentPart t s = numberAt t s := by
  unfold exponentPart
  split
  · exact absurd rfl (h _ rfl).2.2.1
  · exact absurd rfl (h _ rfl).2.2.2
  · rfl

theorem fractionPart_of_stops {t : Numeral} {s : Symbols} (h : Stops s) :
    fractionPart t s = numberAt t s := by
  unfold fractionPart
  split
  · exact absurd rfl (h _ rfl).2.1
  · exact exponentPart_of_stops h

theorem absorb_digits {ds : List Char} {m : Nat} (h : Nat.ofDigitChars 10 ds m < 2 ^ 64) :
    Number.absorb m (ds.map fun c => c.toNat - 48) = (Nat.ofDigitChars 10 ds m, []) := by
  induction ds generalizing m with
  | nil => rfl
  | cons c ds ih =>
    rw [Nat.ofDigitChars_cons] at h ⊢
    have hle : 10 * m + (c.toNat - 48) < 2 ^ 64 := by
      have hge := @Nat.ofDigitChars_eq_ofDigitChars_zero ds
        (10 * m + (c.toNat - '0'.toNat))
      have hpos := Nat.one_le_pow ds.length 10 (by decide)
      change 10 * m + (c.toNat - '0'.toNat) < 2 ^ 64
      nlinarith
    rw [List.map_cons, Number.absorb, if_pos hle]
    exact ih h

theorem isDigit_toDigits (n : Nat) : ∀ c ∈ (Nat.toDigits 10 n).map some, isDigit c = true := by
  intro c hc
  obtain ⟨d, hd, rfl⟩ := List.mem_map.mp hc
  exact Nat.isDigit_of_mem_toDigits (by decide) (by decide) hd

theorem takeWhile_digits (n : Nat) {s : Symbols} (h : Stops s) :
    ((Nat.toDigits 10 n).map some ++ s).takeWhile isDigit = (Nat.toDigits 10 n).map some ∧
      ((Nat.toDigits 10 n).map some ++ s).dropWhile isDigit = s := by
  rw [List.takeWhile_append_of_pos (isDigit_toDigits n),
    List.dropWhile_append_of_pos (isDigit_toDigits n)]
  cases s with
  | nil => simp
  | cons c s => simp [(h c rfl).1]

theorem digitValues_map (ds : List Char) :
    digitValues (ds.map some) = ds.map fun c => c.toNat - 48 := by
  simp [digitValues, List.filterMap_map]

theorem magnitude_toDigits {negative : Bool} {n : Nat} {k : Number} {s : Symbols} (h : Stops s)
    (hn : n < 2 ^ 64) (hk : Number.integer? negative n = some k) :
    magnitude negative ((Nat.toDigits 10 n).map some ++ s) = (.number (.ok k), some s) := by
  obtain ⟨ht, hd⟩ := takeWhile_digits n h
  have hne : ((Nat.toDigits 10 n).map some).isEmpty = false := by
    simp [Nat.toDigits_ne_nil]
  have hz : ¬ (((Nat.toDigits 10 n).map some).head? = some (some '0') ∧
      ((Nat.toDigits 10 n).map some).length ≠ 1) := by
    rintro ⟨hh, hl⟩
    rw [List.head?_map, Option.map_eq_some_iff] at hh
    obtain ⟨c, hc, hc0⟩ := hh
    obtain rfl := Hex.toDigits_head (by decide) (by decide) (Option.some.inj hc0 ▸ hc)
    exact hl rfl
  have ha : Number.absorb 0 ((Nat.toDigits 10 n).map fun c => c.toNat - 48) = (n, []) := by
    have hv : Nat.ofDigitChars 10 (Nat.toDigits 10 n) 0 = n := Nat.ofDigitChars_ten_toDigits
    rw [absorb_digits (by rwa [hv]), hv]
  have hnum : Number.ofNumeral? ⟨negative, (Nat.toDigits 10 n).map fun c => c.toNat - 48, [], none⟩ =
      some k := by
    simp [Number.ofNumeral?, ha, hk]
  simp only [magnitude, ht, hd, hne, hz, Bool.false_eq_true, ↓reduceIte, fractionPart_of_stops h,
    digitValues_map, numberAt, hnum]

end ProofTrial.Json.Reader
