import ProofTrial.Claim.Corruption
import ProofTrial.Proofs.BitFlip
import ProofTrial.Proofs.Field.Text
import ProofTrial.Proofs.Random.Range

/-! One bit of one word of a vector. The draws choose the word and the bit whatever the words are;
a drawn text that is a word is written anew with the bit turned over, and where something is wrong
the vector stays as it was. -/
namespace ProofTrial.Corruption

variable {σ : Type} [RandomSource σ]

/-- What came of a flip, given as a new vector and made in place alike. -/
structure Flips (words : List String) (s : σ) (r : Except Error Unit) (after : List String)
    (t : σ) : Prop where
  value : flipWordBit words s = (r.map fun _ => after, t)
  place : flipInPlace words s = (r, after, t)

theorem flips_of_place {words after : List String} {s t : σ} {r : Except Error Unit}
    (h : flipInPlace words s = (r, after, t)) : Flips words s r after t where
  value := by rw [flipWordBit, h]
  place := h

theorem flips_of_length {words : List String} (h : words.length ≠ wordSize) (s : σ) :
    Flips words s (.error (.invalidParameter (.claimVectorLength words.length))) words s :=
  flips_of_place (by rw [flipInPlace, dif_neg h])

section Drawn

variable {words : List String} {text : String} {s t u : σ} {i : Fin wordSize}
  {bit : Fin (maxWordBit + 1)} (hl : words.length = wordSize)
  (hplace : Random.index wordSize (by decide) s = (i, t)) (hword : words[i.val]? = some text)
include hl hplace hword

theorem flips_of_foreign {e : Error} (h : readWord text = .error e) :
    Flips words s (.error e) words t := by
  obtain ⟨_, rfl⟩ := List.getElem?_eq_some_iff.mp hword
  apply flips_of_place
  simp only [flipInPlace, dif_pos hl, hplace, List.get_eq_getElem, Fin.val_cast, h]

theorem flips_of_word {v : Nat} (h : readWord text = .ok v)
    (hbit : Random.below32 (maxWordBit + 1) (by decide) t = (bit, u)) :
    Flips words s (.ok ()) (words.set i (Hex.word (v ^^^ 2 ^ bit.val))) u := by
  obtain ⟨_, rfl⟩ := List.getElem?_eq_some_iff.mp hword
  apply flips_of_place
  simp only [flipInPlace, dif_pos hl, hplace, List.get_eq_getElem, Fin.val_cast, h, hbit]

end Drawn

/-- The written form of `v` with one bit turned over: a word again, another one modulo the prime,
and an element where `v` has no more bits than may be turned over. -/
structure Turned (v bit : Nat) (text : String) : Prop where
  canonical : Hex.Canonical text (v ^^^ 2 ^ bit)
  word : Hex.Denotes text (v ^^^ 2 ^ bit)
  bits : ∀ k, v.testBit k ≠ (v ^^^ 2 ^ bit).testBit k ↔ k = bit
  residue : ¬ v ^^^ 2 ^ bit ≡ v [MOD Field.prime]
  element : v < 2 ^ 61 → v ^^^ 2 ^ bit < Field.prime

theorem turned_word {v bit : Nat} (hv : v < Hex.wordLimit) (hb : bit ≤ 60) :
    Turned v bit (Hex.word (v ^^^ 2 ^ bit)) := by
  have hpow {n : Nat} (hn : 60 < n) : 2 ^ bit < 2 ^ n :=
    Nat.pow_lt_pow_right (by decide) (Nat.lt_of_le_of_lt hb hn)
  have hprime : 2 ^ 61 < Field.prime := by decide
  have hcanonical := Hex.canonical_word (v ^^^ 2 ^ bit)
  exact {
    canonical := hcanonical
    word := hcanonical.denotes (Nat.xor_lt_two_pow hv (hpow (by decide)))
    bits := testBit_xor_two_pow v bit
    residue := xor_two_pow_not_modEq ((hpow (by decide)).trans hprime) v
    element := fun h => (Nat.xor_lt_two_pow h (hpow (by decide))).trans hprime }

/-- A word reads as one number, so the new text is another one, whatever the spelling of the old. -/
theorem Turned.ne {v bit : Nat} {text new : String} (h : Turned v bit new)
    (hv : Hex.Denotes text v) : new ≠ text := by
  rintro rfl
  have hread := (Hex.readWord_eq_ok.mpr h.word).symm.trans (Hex.readWord_eq_ok.mpr hv)
  exact xor_two_pow_ne v bit (Except.ok.inj hread)

/-- The draws alone say which place is looked at and which bit is turned over. -/
theorem exists_turned {s t u : σ} {i : Fin wordSize} {bit : Fin (maxWordBit + 1)}
    (hplace : Random.index wordSize (by decide) s = (i, t))
    (hbit : Random.below32 (maxWordBit + 1) (by decide) t = (bit, u)) {text : String} {v : Nat}
    (hv : Hex.Denotes text v) :
    ∃ new, Turned v bit new ∧ ∀ words : List String, words.length = wordSize →
      words[i.val]? = some text → Flips words s (.ok ()) (words.set i new) u :=
  ⟨_, turned_word hv.lt (Nat.le_of_lt_succ bit.isLt), fun _ hl hword =>
    flips_of_word hl hplace hword (readWord_eq_ok.mpr hv) hbit⟩

/-- A vector that is not of four words is refused before anything is drawn. Otherwise a place is
drawn, and the text at that place alone decides: if it is no word the vector stays, and if it is one
a bit is drawn and the word written anew with that bit turned over. Every place and every bit come
from some source. -/
theorem flipWordBit_turns_one_bit :
    (∀ (words : List String) (s : σ), words.length ≠ 4 →
      ∃ f, Flips words s (.error (.invalidParameter f)) words s) ∧
    (∀ (s t u : σ) (i : Fin 4) (bit : Fin 61), Random.index 4 (by decide) s = (i, t) →
      Random.below32 61 (by decide) t = (bit, u) → ∀ text,
      ((∀ v, ¬ Hex.Denotes text v) → ∃ f, ∀ words : List String,
        words.length = 4 → words[i.val]? = some text →
          Flips words s (.error (.invalidParameter f)) words t) ∧
      ∀ v, Hex.Denotes text v → ∃ new, Turned v bit new ∧ ∀ words : List String,
        words.length = 4 → words[i.val]? = some text →
          Flips words s (.ok ()) (words.set i new) u) ∧
    ∀ (i : Fin 4) (bit : Fin 61), ∃ draws u : WordCycle, ∀ text v, Hex.Denotes text v →
      ∃ new, Turned v bit new ∧ ∀ words : List String,
        words.length = 4 → words[i.val]? = some text →
          Flips words draws (.ok ()) (words.set i new) u := by
  refine ⟨fun words s hl => ⟨_, flips_of_length hl s⟩, ?_, fun i bit => ?_⟩
  · intro s t u i bit hplace hbit text
    refine ⟨fun hf => ?_, fun v hv => exists_turned hplace hbit hv⟩
    obtain ⟨f, hr⟩ := readWord_of_foreign hf
    exact ⟨f, fun words hl hword => flips_of_foreign hl hplace hword hr⟩
  · obtain ⟨draws, hplace, hbit⟩ := Random.exists_source_index_below32 (n := wordSize)
      (m := maxWordBit + 1) (by decide) (by decide) i (by decide) (by decide) bit
    exact ⟨draws, _, fun text v hv => exists_turned (Prod.ext hplace rfl) (Prod.ext hbit rfl) hv⟩

end ProofTrial.Corruption
