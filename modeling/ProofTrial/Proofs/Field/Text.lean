import ProofTrial.Field.Text
import ProofTrial.Proofs.Text.Word

/-! Words and elements as texts. Exactly the spellings of a word are read, those of an element are
the ones below the prime, and what is written is the one canonical spelling, so rows read as they
were written. -/
namespace ProofTrial

/-- What gives no value, and never fails but for its parameter, fails for its parameter. -/
theorem exists_invalidParameter {α : Type} {x : Except Error α} (hok : ∀ a, x ≠ .ok a)
    (herror : ∀ e, x = .error e → ∃ f, e = .invalidParameter f) :
    ∃ f, x = .error (.invalidParameter f) := by
  cases x with
  | ok a => exact absurd rfl (hok a)
  | error e =>
    obtain ⟨f, rfl⟩ := herror e rfl
    exact ⟨f, rfl⟩

theorem readWord_eq_ok {text : String} {v : Nat} :
    readWord text = .ok v ↔ Hex.Denotes text v := by
  rw [readWord, mapError_eq_ok, Hex.readWord_eq_ok]

theorem readWord_eq_error {text : String} {e : Error} (h : readWord text = .error e) :
    ∃ f, e = .invalidParameter f := by
  obtain ⟨f, _, rfl⟩ := mapError_eq_error.mp h
  exact ⟨_, rfl⟩

theorem readWord_of_foreign {text : String} (h : ∀ v, ¬ Hex.Denotes text v) :
    ∃ f, readWord text = .error (.invalidParameter f) :=
  exists_invalidParameter (fun v hv => h v (readWord_eq_ok.mp hv)) fun _ => readWord_eq_error

theorem readWord_word {v : Nat} (h : v < Hex.wordLimit) : readWord (Hex.word v) = .ok v :=
  mapError_eq_ok.mpr (Hex.readWord_word h)

/-- A word written anew in its one form. -/
def respelled (text : String) : Except Error String := (readWord text).map Hex.word

/-- Written anew, a word stays as it is. -/
theorem bind_respelled (text : String) : (respelled text).bind respelled = respelled text := by
  cases h : readWord text with
  | error e => simp only [respelled, h, Except.map, Except.bind]
  | ok v =>
    have hlt := (readWord_eq_ok.mp h).lt
    simp only [respelled, h, Except.map, Except.bind, readWord_word hlt]

namespace Felt

theorem ofHex_eq_ok {text : String} {x : Felt} :
    ofHex text = .ok x ↔ Hex.Denotes text x.val := by
  rw [← readWord_eq_ok, ofHex]
  cases readWord text with
  | error e => simp
  | ok n =>
    obtain ⟨m, hm⟩ := x
    by_cases hn : n < Field.prime
    · simp [ofNat?, hn]
    · have hne : n ≠ m := fun h => hn (h ▸ hm)
      simp [ofNat?, hn, hne]

theorem ofHex_eq_error {text : String} {e : Error} (h : ofHex text = .error e) :
    ∃ f, e = .invalidParameter f := by
  unfold ofHex at h
  cases hr : readWord text with
  | error d =>
    rw [hr] at h
    exact Except.error.inj h ▸ readWord_eq_error hr
  | ok n =>
    by_cases hn : n < Field.prime
    · simp [hr, ofNat?, hn] at h
    · simp only [hr, ofNat?, hn, ↓reduceDIte, Except.error.injEq] at h
      exact ⟨_, h.symm⟩

theorem ofHex_of_foreign {text : String} (h : ∀ x : Felt, ¬ Hex.Denotes text x.val) :
    ∃ f, ofHex text = .error (.invalidParameter f) :=
  exists_invalidParameter (fun x hx => h x (ofHex_eq_ok.mp hx)) fun _ => ofHex_eq_error

/-- No word at or above the prime is an element. -/
theorem ofHex_ne_ok_of_le {text : String} {v : Nat} (h : Hex.Denotes text v)
    (hv : Field.prime ≤ v) (x : Felt) : ofHex text ≠ .ok x := by
  intro hx
  have hword := readWord_eq_ok.mpr (ofHex_eq_ok.mp hx)
  rw [readWord_eq_ok.mpr h, Except.ok.injEq] at hword
  exact absurd x.isLt (Nat.not_lt.mpr (hv.trans_eq hword))

theorem val_lt_wordLimit (x : Felt) : x.val < Hex.wordLimit := x.isLt.trans (by decide)

theorem ofHex_hex (x : Felt) : ofHex x.hex = .ok x :=
  ofHex_eq_ok.mpr ((Hex.canonical_word x.val).denotes x.val_lt_wordLimit)

theorem listOfHex_readsEach : ReadsEach ofHex listOfHex where
  nil := rfl
  cons t ts := by rw [listOfHex]; cases ofHex t <;> rfl

theorem listOfHex_eq_ok {words : List String} {xs : List Felt} :
    listOfHex words = .ok xs ↔ List.Forall₂ (fun t x => ofHex t = .ok x) words xs :=
  listOfHex_readsEach.eq_ok

theorem listOfHex_eq_error {words : List String} {e : Error} (h : listOfHex words = .error e) :
    ∃ f, e = .invalidParameter f := by
  obtain ⟨t, _, ht⟩ := listOfHex_readsEach.eq_error h
  exact ofHex_eq_error ht

theorem listOfHex_map_hex (xs : List Felt) : listOfHex (xs.map hex) = .ok xs := by
  rw [listOfHex_eq_ok, List.forall₂_map_left_iff, List.forall₂_same]
  exact fun x _ => ofHex_hex x

/-- Written anew, the text of an element is the one that is written for it. -/
theorem respelled_eq {text : String} {x : Felt} (h : ofHex text = .ok x) :
    respelled text = .ok x.hex := by
  rw [respelled, readWord_eq_ok.mpr (ofHex_eq_ok.mp h)]
  rfl

end Felt

/-- Exactly the texts that denote a word are read, as that word, and as an element where it is below
the prime. A word has one canonical text. It is the one that is written, and reads as the word, so
what is written anew stays as it is. -/
theorem readWord_reads_words :
    (∀ text v, readWord text = .ok v ↔ Hex.Denotes text v) ∧
    (∀ text, (∀ v, ¬ Hex.Denotes text v) → ∃ f, readWord text = .error (.invalidParameter f)) ∧
    (∀ text (x : Felt), Felt.ofHex text = .ok x ↔ Hex.Denotes text x.val) ∧
    (∀ text, (∀ x : Felt, ¬ Hex.Denotes text x.val) →
      ∃ f, Felt.ofHex text = .error (.invalidParameter f)) ∧
    (∀ v < 2 ^ 64, readWord (Hex.word v) = .ok v) ∧
    (∀ v text, Hex.Canonical text v ↔ text = Hex.word v) ∧
    ∀ text, (respelled text).bind respelled = respelled text :=
  ⟨fun _ _ => readWord_eq_ok, fun _ => readWord_of_foreign, fun _ _ => Felt.ofHex_eq_ok,
    fun _ => Felt.ofHex_of_foreign, fun _ => readWord_word, fun _ _ => Hex.canonical_iff,
    bind_respelled⟩

namespace Row

theorem length_toHex (row : Row) : row.toHex.length = wordSize := by
  rw [toHex, List.length_map, Vector.length_toList]
  rfl

/-- Every word of a row is the canonical one of an element. -/
theorem canonical_toHex (row : Row) :
    ∀ text ∈ row.toHex, ∃ n < Field.prime, Hex.Canonical text n := by
  intro text ht
  obtain ⟨x, _, rfl⟩ := List.mem_map.mp ht
  exact ⟨x.val, x.isLt, Hex.canonical_word x.val⟩

/-- A row reads from exactly as many words as it has elements, each of which reads as one. -/
theorem ofHexWith_eq_ok {wrongLength : Nat → ParameterFault} {words : List String} {row : Row} :
    ofHexWith wrongLength words = .ok row ↔
      List.Forall₂ (fun t x => Felt.ofHex t = .ok x) words row.toList := by
  rw [← Felt.listOfHex_eq_ok, ofHexWith]
  by_cases hn : words.length = wordSize
  · rw [dif_pos hn]
    split
    next e he => simp [he]
    next xs hxs => simp [hxs, ← Vector.toList_inj]
  · rw [dif_neg hn]
    have hlen : Felt.listOfHex words ≠ .ok row.toList := by
      intro h
      exact hn ((Felt.listOfHex_length h).symm.trans row.length_toList)
    simp [hlen]

theorem ofHexWith_eq_error {wrongLength : Nat → ParameterFault} {words : List String} {e : Error}
    (h : ofHexWith wrongLength words = .error e) : ∃ f, e = .invalidParameter f := by
  unfold ofHexWith at h
  split_ifs at h
  · split at h
    next d hd => exact Felt.listOfHex_eq_error (Except.error.inj h ▸ hd)
    next => contradiction
  · exact ⟨_, (Except.error.inj h).symm⟩

/-- Words that a row reads from. -/
theorem exists_ofHexWith_iff {wrongLength : Nat → ParameterFault} {words : List String} :
    (∃ row, ofHexWith wrongLength words = .ok row) ↔
      words.length = wordSize ∧ ∀ t ∈ words, ∃ x, Felt.ofHex t = .ok x := by
  simp only [ofHexWith_eq_ok]
  rw [← exists_forall₂_iff]
  constructor
  · rintro ⟨row, h⟩
    exact ⟨h.length_eq.trans row.length_toList, row.toList, h⟩
  · rintro ⟨hn, xs, h⟩
    exact ⟨⟨xs.toArray, h.length_eq.symm.trans hn⟩, h⟩

/-- All other words are refused for what they are. -/
theorem exists_ofHexWith_eq_error_iff {wrongLength : Nat → ParameterFault} {words : List String} :
    (∃ f, ofHexWith wrongLength words = .error (.invalidParameter f)) ↔
      words.length ≠ wordSize ∨ ∃ t ∈ words, ∀ x, Felt.ofHex t ≠ .ok x := by
  have hneg : (¬ ∃ row, ofHexWith wrongLength words = .ok row) ↔
      words.length ≠ wordSize ∨ ∃ t ∈ words, ∀ x, Felt.ofHex t ≠ .ok x := by
    rw [exists_ofHexWith_iff]
    push Not
    exact Decidable.imp_iff_not_or
  rw [← hneg]
  constructor
  · rintro ⟨f, h⟩ ⟨row, hrow⟩
    rw [h] at hrow
    contradiction
  · intro h
    exact exists_invalidParameter (fun row hrow => h ⟨row, hrow⟩) fun _ => ofHexWith_eq_error

theorem ofHex_toHex (row : Row) : ofHex row.toHex = .ok row := by
  rw [ofHex, ofHexWith_eq_ok, toHex, ← Felt.listOfHex_eq_ok]
  exact Felt.listOfHex_map_hex row.toList

/-- The words that are written for a row are those it was read from, written anew. -/
theorem respelled_toHex {words : List String} {row : Row} (h : ofHex words = .ok row) :
    List.Forall₂ (fun t u => respelled t = .ok u) words row.toHex := by
  rw [toHex, List.forall₂_map_right_iff]
  exact (ofHexWith_eq_ok.mp h).imp fun _ _ => Felt.respelled_eq

end Row
end ProofTrial
