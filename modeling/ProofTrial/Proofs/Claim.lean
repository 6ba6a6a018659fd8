import ProofTrial.Proofs.Corruption
import ProofTrial.Random.WordCycle

/-! Claims changed in place. A value of the shape of a claim is written back as it was read. A
corruption of it sets one field anew or leaves everything as it was, and the shape of the value and
the word that is drawn decide which. -/
namespace ProofTrial
open Json

namespace Claim

/-- The fields of a claim with values of their types, among any others. -/
def Shaped : Scheme → Json → Prop
  | .rescue, v => ∃ output n, v.field? "output" = some (.strings output) ∧
      v.field? "chain_length" = some (.integer n) ∧ isChainLength n = true
  | .ziggy, v => ∃ message key, v.field? "message" = some (.string message) ∧
      v.field? "public_key" = some (.strings key)

/-- A value read as a claim and written back. -/
def rewrite : Scheme → Json → Except Error Json
  | .rescue, v => (rescueOfValue v).map RescueClaim.toValue
  | .ziggy, v => (ziggyOfValue v).map ZiggyClaim.toValue

theorem rescueOfValue_of_fields {v : Json} {output : List String} {n : Int}
    (ho : v.field? "output" = some (.strings output))
    (hn : v.field? "chain_length" = some (.integer n)) (hr : isChainLength n = true) :
    ∃ extra, rescueOfValue v = .ok ⟨output, n, extra⟩ := by
  cases v with
  | object fs =>
    have hw : (strings output).strings? = some output := strings?_eq_some.mpr rfl
    have hi : (integer n).integer? = some n := integer?_eq_some.mpr rfl
    simp only [field?] at ho hn
    simp only [rescueOfValue, RescueClaim.ofValue?, ho, hn, Option.bind_some, hw, hi, hr,
      Option.bind_eq_bind, ↓reduceIte]
    exact ⟨_, rfl⟩
  | null | bool b | number k | string t | array xs => simp [field?] at ho

theorem ziggyOfValue_of_fields {v : Json} {message : String} {key : List String}
    (hm : v.field? "message" = some (.string message))
    (hk : v.field? "public_key" = some (.strings key)) :
    ∃ extra, ziggyOfValue v = .ok ⟨message, key, extra⟩ := by
  cases v with
  | object fs =>
    have hw : (strings key).strings? = some key := strings?_eq_some.mpr rfl
    simp only [field?] at hm hk
    simp only [ziggyOfValue, ZiggyClaim.ofValue?, hm, hk, Option.bind_some, hw, string?,
      Option.bind_eq_bind]
    exact ⟨_, rfl⟩
  | null | bool b | number k | string t | array xs => simp [field?] at hm

theorem toValue_of_rescueOfValue {v : Json} {claim : RescueClaim} (hv : Ordered v)
    (h : rescueOfValue v = .ok claim) : claim.toValue = v := by
  obtain ⟨fs, rfl, ho, hn, _, he⟩ := Corruption.rescueOfValue_eq_ok h
  have hs := hv.sorted
  have hsort := sortFields_two (m := "output") (n := "chain_length") (by decide)
    (strings claim.output) (integer claim.chainLength) hs
  rw [setField_of_lookup hs hn, setField_of_lookup hs ho] at hsort
  rw [RescueClaim.toValue, RescueClaim.fields, he, ofFields_eq]
  exact congrArg Json.object hsort

theorem toValue_of_ziggyOfValue {v : Json} {claim : ZiggyClaim} (hv : Ordered v)
    (h : ziggyOfValue v = .ok claim) : claim.toValue = v := by
  obtain ⟨fs, rfl, hm, hk, he⟩ := Corruption.ziggyOfValue_eq_ok h
  have hs := hv.sorted
  have hsort := sortFields_two (m := "message") (n := "public_key") (by decide)
    (.string claim.message) (strings claim.publicKey) hs
  rw [setField_of_lookup hs hk, setField_of_lookup hs hm] at hsort
  rw [ZiggyClaim.toValue, ZiggyClaim.fields, he, ofFields_eq]
  exact congrArg Json.object hsort

/-- Exactly the values of the shape are accepted, and written back as they were. -/
theorem rewrite_eq_ok {scheme : Scheme} {v w : Json} (hv : Ordered v) :
    rewrite scheme v = .ok w ↔ Shaped scheme v ∧ w = v := by
  cases scheme with
  | rescue =>
    rw [rewrite, except_map_eq_ok]
    constructor
    · rintro ⟨claim, hc, rfl⟩
      obtain ⟨fs, rfl, ho, hn, hr, _⟩ := Corruption.rescueOfValue_eq_ok hc
      exact ⟨⟨_, _, ho, hn, hr⟩, toValue_of_rescueOfValue hv hc⟩
    · rintro ⟨⟨output, n, ho, hn, hr⟩, rfl⟩
      obtain ⟨extra, hc⟩ := rescueOfValue_of_fields ho hn hr
      exact ⟨_, hc, toValue_of_rescueOfValue hv hc⟩
  | ziggy =>
    rw [rewrite, except_map_eq_ok]
    constructor
    · rintro ⟨claim, hc, rfl⟩
      obtain ⟨fs, rfl, hm, hk, _⟩ := Corruption.ziggyOfValue_eq_ok hc
      exact ⟨⟨_, _, hm, hk⟩, toValue_of_ziggyOfValue hv hc⟩
    · rintro ⟨⟨message, key, hm, hk⟩, rfl⟩
      obtain ⟨extra, hc⟩ := ziggyOfValue_of_fields hm hk
      exact ⟨_, hc, toValue_of_ziggyOfValue hv hc⟩

theorem rescueOfValue_of_not_shaped {v : Json} (h : ¬ Shaped .rescue v) :
    rescueOfValue v = .error malformed := by
  cases hc : rescueOfValue v with
  | error e => rw [Corruption.rescueOfValue_eq_error hc]
  | ok claim =>
    obtain ⟨fs, rfl, ho, hn, hr, _⟩ := Corruption.rescueOfValue_eq_ok hc
    exact absurd ⟨_, _, ho, hn, hr⟩ h

theorem ziggyOfValue_of_not_shaped {v : Json} (h : ¬ Shaped .ziggy v) :
    ziggyOfValue v = .error malformed := by
  cases hc : ziggyOfValue v with
  | error e => rw [Corruption.ziggyOfValue_eq_error hc]
  | ok claim =>
    obtain ⟨fs, rfl, hm, hk, _⟩ := Corruption.ziggyOfValue_eq_ok hc
    exact absurd ⟨_, _, hm, hk⟩ h

end Claim

namespace Corruption

variable {σ : Type} [RandomSource σ] {scheme : Scheme}

/-- The place of the word that is changed in a vector. -/
def drawnPlace (s : σ) : Fin wordSize := (Random.index wordSize (Nat.succ_pos 3) s).1

/-- A vector that is not of four words, or whose drawn word is no word of 64 bits. -/
def Stuck (words : List String) (s : σ) : Prop :=
  words.length ≠ wordSize ∨
    ∃ word, words[(drawnPlace s).val]? = some word ∧ ∀ n, Hex.readWord word ≠ .ok n

/-- Why a value of the right shape is not corrupted. -/
def Refuses : Corruption scheme → Json → σ → Prop
  | chainLength, _, _ => False
  | output, v, s => ∃ words, v.field? "output" = some (.strings words) ∧ Stuck words s
  | message, v, _ => v.field? "message" = some (.string "")
  | publicKey, v, s => ∃ words, v.field? "public_key" = some (.strings words) ∧ Stuck words s

/-- How `w` comes from `v`: one field is another one than before, and nothing else differs. -/
structure Touches (c : Corruption scheme) (v w : Json) : Prop where
  names : ∃ fs gs, v = .object fs ∧ w = .object gs ∧ gs.map Prod.fst = fs.map Prod.fst
  others : ∀ name, name ≠ c.field → w.field? name = v.field? name
  target : w.field? c.field ≠ v.field? c.field ∨
    c.field = "chain_length" ∧ v.field? c.field = some (.integer Claim.maxChainLength)
  ordered : Ordered w

/-- A corruption of a public input in place: what came of it, and the input and the source as it
leaves them. -/
def inPlace (c : Corruption scheme) (v : Json) (s : σ) : Except Error Unit × Json × σ :=
  match c.apply v s with
  | (.ok w, s) => (.ok (), w, s)
  | (.error e, s) => (.error e, v, s)

theorem flipWordBit_stuck {words : List String} {s : σ} :
    (∃ f, (flipWordBit words s).1 = .error (.invalidParameter f)) ↔ Stuck words s := by
  by_cases hl : words.length = wordSize
  · rcases hplace : Random.index wordSize (by decide) s with ⟨i, t⟩
    have hdrawn : drawnPlace s = i := congrArg Prod.fst hplace
    have hword := List.getElem?_eq_getElem (hl.symm ▸ i.isLt : i.val < words.length)
    cases hr : Hex.readWord words[i.val] with
    | error f =>
      have hread : readWord words[i.val] = .error (.invalidParameter (.word words[i.val] f)) := by
        rw [readWord, hr, mapError_error]
      simp [(flips_of_foreign hl hplace hword hread).value, Except.map, Stuck, hdrawn, hword, hr]
    | ok n =>
      have hread : readWord words[i.val] = .ok n := by rw [readWord, hr, mapError_ok]
      simp [(flips_of_word hl hplace hword hread rfl).value, Except.map, Stuck, hl, hdrawn, hr]
  · simp [(flips_of_length hl s).value, Except.map, Stuck, hl]

/-- The words of a field decide, also when they are found by the name of the field. -/
theorem stuck_field {v : Json} {name : String} {words : List String} {s : σ}
    (h : v.field? name = some (.strings words)) :
    (∃ us, v.field? name = some (.strings us) ∧ Stuck us s) ↔ Stuck words s := by
  constructor
  · rintro ⟨us, hus, hs⟩
    obtain rfl := strings_injective (Option.some.inj (h.symm.trans hus))
    exact hs
  · intro hs
    exact ⟨words, h, hs⟩

/-- A value of another shape is refused before anything is drawn. -/
theorem apply_of_not_shaped (c : Corruption scheme) {v : Json} (h : ¬ Claim.Shaped scheme v)
    (s : σ) : c.apply v s = (.error Claim.malformed, s) := by
  cases scheme with
  | rescue => simp only [apply, Claim.rescueOfValue_of_not_shaped h]
  | ziggy => simp only [apply, Claim.ziggyOfValue_of_not_shaped h]

theorem flipWordBit_stuck_or_ok (words : List String) (s : σ) :
    (Stuck words s ∧ ∃ f, (flipWordBit words s).1 = .error (.invalidParameter f)) ∨
      ¬ Stuck words s ∧ ∃ ws, (flipWordBit words s).1 = .ok ws := by
  by_cases hs : Stuck words s
  · exact .inl ⟨hs, flipWordBit_stuck.mpr hs⟩
  · rcases flipWordBit_cases words s with ⟨ws, hws, _⟩ | hf
    · exact .inr ⟨hs, ws, hws⟩
    · exact absurd (flipWordBit_stuck.mp hf) hs

/-- A value of the right shape is corrupted unless its field refuses. -/
theorem apply_of_shaped (c : Corruption scheme) {v : Json} (h : Claim.Shaped scheme v) (s : σ) :
    (c.Refuses v s ∧ ∃ f, (c.apply v s).1 = .error (.invalidParameter f)) ∨
      ¬ c.Refuses v s ∧ ∃ w, (c.apply v s).1 = .ok w := by
  cases c with
  | chainLength =>
    obtain ⟨output, n, ho, hn, hr⟩ := h
    obtain ⟨extra, hc⟩ := Claim.rescueOfValue_of_fields ho hn hr
    simp only [apply, hc, corruptRescue]
    exact .inr ⟨id, _, rfl⟩
  | output =>
    obtain ⟨output, n, ho, hn, hr⟩ := h
    obtain ⟨extra, hc⟩ := Claim.rescueOfValue_of_fields ho hn hr
    simp only [apply, hc, corruptRescue, Refuses, stuck_field ho]
    rcases flipWordBit_stuck_or_ok output s with ⟨hs, f, hf⟩ | ⟨hs, ws, hws⟩
    · exact .inl ⟨hs, f, by rw [hf]; rfl⟩
    · exact .inr ⟨hs, _, by rw [hws]; rfl⟩
  | message =>
    obtain ⟨message, key, hm, hk⟩ := h
    obtain ⟨extra, hc⟩ := Claim.ziggyOfValue_of_fields hm hk
    simp only [apply, hc, corruptZiggy, Refuses, hm, Option.some.injEq, Json.string.injEq]
    by_cases he : message = ""
    · exact .inl ⟨he, _, by rw [flipCharBit_empty he]; rfl⟩
    · obtain ⟨t, ht, _⟩ := flipCharBit_ok he s
      exact .inr ⟨he, _, by rw [ht]; rfl⟩
  | publicKey =>
    obtain ⟨message, key, hm, hk⟩ := h
    obtain ⟨extra, hc⟩ := Claim.ziggyOfValue_of_fields hm hk
    simp only [apply, hc, corruptZiggy, Refuses, stuck_field hk]
    rcases flipWordBit_stuck_or_ok key s with ⟨hs, f, hf⟩ | ⟨hs, ws, hws⟩
    · exact .inl ⟨hs, f, by rw [hf]; rfl⟩
    · exact .inr ⟨hs, _, by rw [hws]; rfl⟩

theorem touches_of_apply {c : Corruption scheme} {v w : Json} {s t : σ} (hv : Ordered v)
    (h : c.apply v s = (.ok w, t)) : c.Touches v w := by
  obtain ⟨fs, old, new, rfl, hold, rfl, hc⟩ := apply_eq_ok hv h
  have hnew : (setField c.field new fs).lookup c.field = some new := by
    rw [lookup_setField, if_pos rfl]
  refine ⟨⟨fs, _, rfl, rfl, names_setField hold hv.sorted⟩, ?_, ?_, ?_⟩
  · intro name hn
    rw [field?, field?, lookup_setField, if_neg hn]
  · by_cases hsat : c.Saturates (.object fs) s
    · cases c with
      | chainLength => exact .inr ⟨rfl, hsat.1⟩
      | output | message | publicKey => exact hsat.elim
    · left
      rw [field?, field?, hnew, hold]
      exact fun he => hc.ne hold hsat (Option.some.inj he)
  · cases hv with
    | object hs hall =>
      refine .object hs.setField ?_
      intro f hf
      rcases mem_setField hf with rfl | hf
      · exact hc.value.1
      · exact hall f hf

theorem inPlace_of_apply_ok {c : Corruption scheme} {v w : Json} {s : σ}
    (h : (c.apply v s).1 = .ok w) : c.inPlace v s = (.ok (), w, (c.apply v s).2) := by
  rw [inPlace, show c.apply v s = (.ok w, (c.apply v s).2) from Prod.ext h rfl]

theorem inPlace_of_apply_error {c : Corruption scheme} {v : Json} {s : σ} {e : Error}
    (h : (c.apply v s).1 = .error e) : c.inPlace v s = (.error e, v, (c.apply v s).2) := by
  rw [inPlace, show c.apply v s = (.error e, (c.apply v s).2) from Prod.ext h rfl]

/-- A corruption that fails leaves the public input as it was, and one that succeeds changes the
field it is for and nothing else. Values of another shape are malformed and cost no draw; of those
of the right shape exactly the ones whose field refuses are invalid, and all are written back as
they were read. -/
theorem inPlace_touches_one_field (c : Corruption scheme) (v : Json) (hv : Ordered v) (s : σ) :
    (∀ e, (c.inPlace v s).1 = .error e → (c.inPlace v s).2.1 = v) ∧
    ((c.inPlace v s).1 = .ok () → c.Touches v (c.inPlace v s).2.1) ∧
    ((∃ e, (c.inPlace v s).1 = .error e ∧ e.kind = "json") ↔ ¬ Claim.Shaped scheme v) ∧
    (¬ Claim.Shaped scheme v → (c.inPlace v s).2.2 = s) ∧
    ((∃ e, (c.inPlace v s).1 = .error e ∧ e.kind = "invalid_parameter") ↔
      Claim.Shaped scheme v ∧ c.Refuses v s) ∧
    (∀ e, (c.inPlace v s).1 = .error e → e.kind = "json" ∨ e.kind = "invalid_parameter") ∧
    ∀ w, Claim.rewrite scheme v = .ok w ↔ Claim.Shaped scheme v ∧ w = v := by
  by_cases h : Claim.Shaped scheme v
  · rcases apply_of_shaped c h s with ⟨hr, f, hf⟩ | ⟨hr, w, hw⟩
    · rw [inPlace_of_apply_error hf]
      refine ⟨?_, ?_, ?_, ?_, ?_, ?_, fun w => Claim.rewrite_eq_ok hv⟩
      all_goals simp [h, hr, Error.kind]
    · have ht := touches_of_apply hv (Prod.ext hw rfl : c.apply v s = (.ok w, (c.apply v s).2))
      rw [inPlace_of_apply_ok hw]
      refine ⟨?_, fun _ => ht, ?_, ?_, ?_, ?_, fun w => Claim.rewrite_eq_ok hv⟩
      all_goals simp [h, hr]
  · have hm := apply_of_not_shaped c h s
    rw [inPlace, hm]
    refine ⟨?_, ?_, ?_, ?_, ?_, ?_, fun w => Claim.rewrite_eq_ok hv⟩
    all_goals simp [h, Claim.malformed, Error.kind]

/-- A claim with a further field, and a word that is none at the end of its output. -/
def sampleClaim : Json :=
  .object [("chain_length", .integer 9), ("memo", .array [.null]),
    ("output", .strings ["0x1", "0X+fF", "0x0", "zero"])]

theorem ordered_sampleClaim : Ordered sampleClaim := by
  have hmemo : Ordered (.array [.null]) := by
    refine .array ?_
    simp [Ordered.null]
  refine .object (sorted_of_names ["chain_length", "memo", "output"] rfl (by decide)) ?_
  simp [ordered_integer, ordered_strings, hmemo]

/-- The first word is drawn and changed; the last one is drawn and refused. -/
theorem inPlace_touches_one_field_sample :
    Ordered sampleClaim ∧
    (output.inPlace sampleClaim (WordCycle.ofWords [0])).1 = .ok () ∧
    output.Touches sampleClaim (output.inPlace sampleClaim (WordCycle.ofWords [0])).2.1 ∧
    (∃ e, (output.inPlace sampleClaim (WordCycle.ofWords [0xffffffff])).1 = .error e) ∧
    (output.inPlace sampleClaim (WordCycle.ofWords [0xffffffff])).2.1 = sampleClaim := by
  have hok : (output.inPlace sampleClaim (WordCycle.ofWords [0])).1 = .ok () := by rfl
  obtain ⟨e, he⟩ : ∃ e,
      (output.inPlace sampleClaim (WordCycle.ofWords [0xffffffff])).1 = .error e := ⟨_, rfl⟩
  have hchanged := inPlace_touches_one_field output sampleClaim ordered_sampleClaim
    (WordCycle.ofWords [0])
  have hrefused := inPlace_touches_one_field output sampleClaim ordered_sampleClaim
    (WordCycle.ofWords [0xffffffff])
  exact ⟨ordered_sampleClaim, hok, hchanged.2.1 hok, ⟨e, he⟩, hrefused.1 e he⟩

end Corruption
end ProofTrial
