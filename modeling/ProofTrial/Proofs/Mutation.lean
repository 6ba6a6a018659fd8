import ProofTrial.Mutation.Checked
import ProofTrial.Proofs.Text.Hex

/-! Operators on proofs. A well-formed proof stays well-formed, so the check on the output never
fails, also not after any number of operators, and every operator but the identity changes every
proof but the empty one. -/
namespace ProofTrial

namespace ProofHex

/-- Digits in pairs, at least one of them. -/
structure Paired (ds : List Char) : Prop where
  nonempty : ds ≠ []
  even : ds.length % 2 = 0
  digits : ∀ c ∈ ds, Hex.isDigit c = true

/-- Digits that make up a proof: the empty proof's single zero, or pairs. -/
def Proper (ds : List Char) : Prop := ds = ['0'] ∨ Paired ds

theorem isWellFormed_ofPayload (ds : List Char) :
    isWellFormed (ofPayload ds) = true ↔ Proper ds := by
  have hp : Paired ds ↔ ds ≠ [] ∧ ds.length % 2 = 0 ∧ ∀ c ∈ ds, Hex.isDigit c = true :=
    ⟨fun h => ⟨h.nonempty, h.even, h.digits⟩, fun h => ⟨h.1, h.2.1, h.2.2⟩⟩
  rw [Proper, hp]
  simp [isWellFormed, ofPayload, and_assoc]

theorem exists_payload {text : String} (h : isWellFormed text = true) :
    ∃ ds, text = ofPayload ds ∧ Proper ds := by
  have h' := h
  unfold isWellFormed at h
  split at h
  next ds hl =>
    have ht : text = ofPayload ds := by rw [ofPayload, ← hl, String.ofList_toList]
    exact ⟨ds, ht, (isWellFormed_ofPayload ds).mp (ht ▸ h')⟩
  next => simp at h

theorem payload_ofPayload (ds : List Char) : payload (ofPayload ds) = ds := by
  simp [payload, ofPayload]

theorem ofPayload_inj {ds es : List Char} (h : ofPayload ds = ofPayload es) : ds = es := by
  have hp := congrArg payload h
  rwa [payload_ofPayload, payload_ofPayload] at hp

theorem emptyProof_eq : emptyProof = ofPayload ['0'] := rfl

theorem isWellFormed_emptyProof : isWellFormed emptyProof = true := by decide

theorem all_isAscii {ds : List Char} : ds.all isAscii = true ↔ ∀ c ∈ ds, c.toNat < 128 := by
  simp only [List.all_eq_true, isAscii, decide_eq_true_eq]

theorem isAscii_of_digits {ds : List Char} (h : ∀ c ∈ ds, Hex.isDigit c = true) :
    ds.all isAscii = true :=
  all_isAscii.mpr fun c hc => Hex.toNat_lt_of_isDigit (h c hc)

theorem Paired.ne_zero {ds : List Char} (h : Paired ds) : ds ≠ ['0'] := by
  rintro rfl
  exact absurd h.even (by decide)

theorem Paired.aligned {ds : List Char} (h : Paired ds) : aligned ds = ds := by
  have heven := h.even
  rw [ProofHex.aligned, if_neg (by simp [h.nonempty, h.ne_zero]), if_neg (by omega)]

theorem Paired.wellFormed {ds : List Char} (h : Paired ds) : isWellFormed (ofPayload ds) = true :=
  (isWellFormed_ofPayload ds).mpr (.inr h)

theorem Paired.ne_empty {ds : List Char} (h : Paired ds) : emptyProof ≠ ofPayload ds := by
  intro he
  exact h.ne_zero (ofPayload_inj he).symm

/-- A list is another one once a place in it holds something else. -/
theorem modify_ne {cs : List Char} {i : Nat} (hi : i < cs.length) {f : Char → Char}
    (hf : f cs[i] ≠ cs[i]) : cs.modify i f ≠ cs := by
  intro he
  have hat : (cs.modify i f)[i]? = cs[i]? := by rw [he]
  rw [List.getElem?_modify_eq, List.getElem?_eq_getElem hi] at hat
  exact hf (Option.some.inj hat)

/-- Flipping a bit of a digit gives another digit. -/
theorem flipDigit_digit {c : Char} (h : Hex.isDigit c = true) {bit : Nat} (hb : bit < 4) :
    Hex.isDigit (flipDigit (2 ^ bit) c) = true ∧ flipDigit (2 ^ bit) c ≠ c := by
  have hall : ∀ n < 128, Hex.isDigit (Char.ofNat n) = true → ∀ b < 4,
      Hex.isDigit (flipDigit (2 ^ b) (Char.ofNat n)) = true ∧
        flipDigit (2 ^ b) (Char.ofNat n) ≠ Char.ofNat n := by decide +kernel
  exact Hex.forall_digit (p := fun c => ∀ b < 4, Hex.isDigit (flipDigit (2 ^ b) c) = true ∧
    flipDigit (2 ^ b) c ≠ c) hall h bit hb

end ProofHex

namespace Mutation
open ProofHex

variable {σ : Type} [RandomSource σ]

/-- What an operator may do to a proof with digits: give another proof. -/
def Damages (ds : List Char) (text : String) : Prop :=
  isWellFormed text = true ∧ text ≠ ofPayload ds

theorem damages_empty {ds : List Char} (h : Paired ds) : Damages ds emptyProof :=
  ⟨isWellFormed_emptyProof, h.ne_empty⟩

theorem damages_shorter {ds es : List Char} (he : Paired es) (hl : es.length ≠ ds.length) :
    Damages ds (ofPayload es) :=
  ⟨he.wellFormed, fun h => hl (congrArg List.length (ofPayload_inj h))⟩

theorem damages_truncate {ds : List Char} (h : Paired ds) : Damages ds (truncate ds) := by
  have heven := h.even
  rw [truncate]
  split_ifs with hl
  · exact damages_empty h
  · have hlen : (ds.take (ds.length - 2)).length = ds.length - 2 := by
      rw [List.length_take]
      omega
    refine damages_shorter ⟨?_, by omega, fun c hc => h.digits c (List.mem_of_mem_take hc)⟩
      (by omega)
    exact List.ne_nil_of_length_pos (by omega)

theorem damages_removeByte {ds : List Char} (h : Paired ds) (s : σ) :
    Damages ds (removeByte ds s).1 := by
  have heven := h.even
  rw [removeByte]
  split_ifs with hl
  · exact damages_empty h
  · generalize Random.index (ds.length / 2) _ s = draw
    obtain ⟨i, s⟩ := draw
    have hi := i.isLt
    have hlen : (ds.take (2 * i) ++ ds.drop (2 * i + 2)).length = ds.length - 2 := by
      rw [List.length_append, List.length_take, List.length_drop]
      omega
    refine damages_shorter ⟨?_, by omega, ?_⟩ (by omega)
    · apply List.ne_nil_of_length_pos
      omega
    · intro c hc
      rcases List.mem_append.mp hc with hc | hc
      · exact h.digits c (List.mem_of_mem_take hc)
      · exact h.digits c (List.mem_of_mem_drop hc)

theorem damages_flipBit {ds : List Char} (h : Paired ds) (s : σ) :
    Damages ds (flipBit ds s).1 := by
  rw [flipBit, dif_neg (by simp [h.nonempty, h.ne_zero])]
  generalize Random.index ds.length _ s = draw
  obtain ⟨i, s⟩ := draw
  dsimp only
  generalize Random.below32 4 _ s = draw
  obtain ⟨bit, s⟩ := draw
  have hf := flipDigit_digit (h.digits _ (List.getElem_mem i.isLt)) bit.isLt
  constructor
  · apply Paired.wellFormed
    constructor
    · simpa using h.nonempty
    · simpa using h.even
    · intro c hc
      obtain ⟨j, hj, rfl⟩ := List.getElem_of_mem hc
      rw [List.getElem_modify]
      split
      next he =>
        subst he
        exact hf.1
      next => exact h.digits _ (List.getElem_mem _)
  · intro he
    exact modify_ne i.isLt hf.2 (ofPayload_inj he)

/-- The empty proof has nothing to damage. -/
theorem transform_emptyProof (m : Mutation) (s : σ) : m.transform emptyProof s = (emptyProof, s) := by
  have ha : (payload emptyProof).all isAscii = true := by decide
  have hp : payload emptyProof = ['0'] := by decide
  cases m with
  | identity => simp [transform]
  | empty => simp [transform]
  | truncateLastByte => simp [transform, hp, aligned, truncate]
  | removeRandomByte => simp [transform, hp, aligned, removeByte]
  | flipRandomBit => simp [transform, hp, flipBit]

theorem damages_transform {ds : List Char} (h : Paired ds) {m : Mutation} (hm : m ≠ identity)
    (s : σ) : Damages ds (m.transform (ofPayload ds) s).1 := by
  have ha := isAscii_of_digits h.digits
  cases m with
  | identity => exact absurd rfl hm
  | empty =>
    simp only [transform, payload_ofPayload, ha, ↓reduceIte]
    exact damages_empty h
  | truncateLastByte =>
    simp only [transform, payload_ofPayload, ha, ↓reduceIte, h.aligned]
    exact damages_truncate h
  | removeRandomByte =>
    simp only [transform, payload_ofPayload, ha, ↓reduceIte, h.aligned]
    exact damages_removeByte h s
  | flipRandomBit =>
    simp only [transform, payload_ofPayload, ha, ↓reduceIte]
    exact damages_flipBit h s

theorem transform_identity (text : String) (s : σ) : identity.transform text s = (text, s) := by
  simp [transform]

/-- An operator takes proofs to proofs. -/
theorem isWellFormed_transform {text : String} (h : isWellFormed text = true) (m : Mutation)
    (s : σ) : isWellFormed (m.transform text s).1 = true := by
  obtain ⟨ds, rfl, hp⟩ := exists_payload h
  rcases hp with rfl | hp
  · rw [← emptyProof_eq, transform_emptyProof]
    exact isWellFormed_emptyProof
  · by_cases hm : m = identity
    · rw [hm, transform_identity]
      exact h
    · exact (damages_transform hp hm s).1

/-- An operator other than the identity changes every proof but the empty one. -/
theorem transform_ne {text : String} (h : isWellFormed text = true) (he : text ≠ emptyProof)
    {m : Mutation} (hm : m ≠ identity) (s : σ) : (m.transform text s).1 ≠ text := by
  obtain ⟨ds, rfl, hp⟩ := exists_payload h
  rcases hp with rfl | hp
  · exact absurd emptyProof_eq.symm he
  · exact (damages_transform hp hm s).2

/-- On a proof the checked operator is the raw one. -/
theorem apply_of_wellFormed {text : String} (h : isWellFormed text = true) (m : Mutation) (s : σ) :
    m.apply text s = (.ok (m.transform text s).1, (m.transform text s).2) := by
  simp only [apply, h, isWellFormed_transform h m s, ↓reduceIte]

/-- A text that is no proof is refused before anything is drawn. -/
theorem apply_of_malformed {text : String} (h : isWellFormed text = false) (m : Mutation) (s : σ) :
    m.apply text s = (.error (.invalidParameter (.proofMalformed text.utf8ByteSize)), s) := by
  simp only [apply, h, Bool.false_eq_true, ↓reduceIte]

/-- Operators one after the other, each on what the one before it left; the first that fails is
the last. -/
def applyEach : List Mutation → String → σ → Except Error String × σ
  | [], text, s => (.ok text, s)
  | m :: ms, text, s =>
    match m.apply text s with
    | (.error e, s) => (.error e, s)
    | (.ok text, s) => applyEach ms text s

theorem applyEach_cons {text : String} (h : isWellFormed text = true) (m : Mutation)
    (ms : List Mutation) (s : σ) : applyEach (m :: ms) text s =
      applyEach ms (m.transform text s).1 (m.transform text s).2 := by
  simp only [applyEach, apply_of_wellFormed h]

/-- No operator fails on a proof, and each leaves one for the next. -/
theorem applyEach_wellFormed {text : String} (h : isWellFormed text = true) (ms : List Mutation)
    (s : σ) : ∃ proof t, applyEach ms text s = (.ok proof, t) ∧ isWellFormed proof = true := by
  induction ms generalizing text s with
  | nil => exact ⟨text, s, rfl, h⟩
  | cons m ms ih =>
    rw [applyEach_cons h]
    exact ih (isWellFormed_transform h m s) _

theorem applyEach_append {text proof : String} {ms : List Mutation} {s t : σ}
    (h : applyEach ms text s = (.ok proof, t)) (ns : List Mutation) :
    applyEach (ms ++ ns) text s = applyEach ns proof t := by
  induction ms generalizing text s with
  | nil =>
    obtain ⟨hp, rfl⟩ := Prod.mk.inj h
    obtain rfl := Except.ok.inj hp
    rfl
  | cons m ms ih =>
    rw [List.cons_append, applyEach]
    rw [applyEach] at h
    cases hm : m.apply text s with
    | mk r u =>
      rw [hm] at h
      cases r with
      | error e => cases h
      | ok next => exact ih h

/-- Nothing comes back once all bytes are gone, and nothing is drawn for it. -/
theorem applyEach_emptyProof (ms : List Mutation) (s : σ) :
    applyEach ms emptyProof s = (.ok emptyProof, s) := by
  induction ms with
  | nil => rfl
  | cons m ms ih => rw [applyEach_cons isWellFormed_emptyProof, transform_emptyProof, ih]

/-- An operator refuses exactly the texts that are no proofs, without a draw, and takes proofs to
proofs, so no result is ever reported as a defect. Any number of operators on a proof leave a
proof, and from the empty proof on it is the empty proof. -/
theorem apply_closed (m : Mutation) (text : String) (s : σ) :
    ((∃ f, (m.apply text s).1 = .error (.invalidParameter f)) ↔ isWellFormed text = false) ∧
    (isWellFormed text = false → (m.apply text s).2 = s) ∧
    (isWellFormed text = true →
      ∃ proof, (m.apply text s).1 = .ok proof ∧ isWellFormed proof = true) ∧
    (∀ operator output, (m.apply text s).1 ≠ .error (.mutationInvariant operator output)) ∧
    (isWellFormed text = true → ∀ ms, ∃ proof t,
      applyEach ms text s = (.ok proof, t) ∧ isWellFormed proof = true ∧
      (proof = emptyProof → ∀ ns, applyEach (ms ++ ns) text s = (.ok emptyProof, t))) := by
  have hruns : isWellFormed text = true → ∀ ms, ∃ proof t,
      applyEach ms text s = (.ok proof, t) ∧ isWellFormed proof = true ∧
      (proof = emptyProof → ∀ ns, applyEach (ms ++ ns) text s = (.ok emptyProof, t)) := by
    intro h ms
    obtain ⟨proof, t, hrun, hproof⟩ := applyEach_wellFormed h ms s
    refine ⟨proof, t, hrun, hproof, ?_⟩
    rintro rfl ns
    rw [applyEach_append hrun, applyEach_emptyProof]
  cases h : isWellFormed text with
  | false => simp [apply_of_malformed h]
  | true =>
    have hclosed := isWellFormed_transform h m s
    simp only [apply_of_wellFormed h]
    exact ⟨by simp, by simp, fun _ => ⟨_, rfl, hclosed⟩, by simp, fun _ => hruns h⟩

end Mutation
end ProofTrial
