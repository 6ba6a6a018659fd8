import ProofTrial.Proofs.Corruption.ChainLength
import ProofTrial.Proofs.Corruption.Message
import ProofTrial.Proofs.Corruption.Words
import ProofTrial.Proofs.Json.Value

/-! Corruptions of claims. A corrupted claim is the claim with one field set anew: every other
field stays, known or not, and the new value differs from the old one unless a chain length at
the top of its range is to go up. -/
namespace ProofTrial

namespace Corruption

variable {σ : Type} [RandomSource σ] {scheme : Scheme}

theorem eq_getElem_of_set_eq {α : Type} {xs : List α} {i : Nat} {x : α} (hi : i < xs.length)
    (h : xs.set i x = xs) : x = xs[i] := by
  have hg : (xs.set i x)[i]? = xs[i]? := by rw [h]
  rw [List.getElem?_set_self hi, List.getElem?_eq_getElem hi] at hg
  exact Option.some.inj hg

/-- A message that is not empty always changes, in one character. -/
theorem flipCharBit_ok {message : String} (h : message ≠ "") (s : σ) :
    ∃ text, (flipCharBit message s).1 = .ok text ∧ text ≠ message := by
  obtain ⟨place, bit, text, t, hflip, hturns⟩ := exists_turnsCharacter h s
  exact ⟨text, congrArg Prod.fst hflip, hturns.ne⟩

theorem flipCharBit_empty {message : String} (h : message = "") (s : σ) :
    (flipCharBit message s).1 = .error (.invalidParameter .messageEmpty) := by
  subst h
  rfl

theorem flipCharBit_ne {message text : String} {s : σ} (h : (flipCharBit message s).1 = .ok text) :
    text ≠ message := by
  by_cases hm : message = ""
  · rw [flipCharBit_empty hm] at h
    contradiction
  · obtain ⟨u, hu, hne⟩ := flipCharBit_ok hm s
    obtain rfl := Except.ok.inj (h.symm.trans hu)
    exact hne

/-- Changing a word gives another list of words, or a complaint about the words. -/
theorem flipWordBit_cases (words : List String) (s : σ) :
    (∃ ws, (flipWordBit words s).1 = .ok ws ∧ ws ≠ words) ∨
      ∃ f, (flipWordBit words s).1 = .error (.invalidParameter f) := by
  by_cases hl : words.length = wordSize
  · rcases hplace : Random.index wordSize (by decide) s with ⟨i, t⟩
    rcases hbit : Random.below32 (maxWordBit + 1) (by decide) t with ⟨bit, u⟩
    have hi : i.val < words.length := hl.symm ▸ i.isLt
    have hword := List.getElem?_eq_getElem hi
    by_cases hv : ∃ v, Hex.Denotes words[i.val] v
    · obtain ⟨v, hv⟩ := hv
      obtain ⟨new, hnew, hflips⟩ := exists_turned hplace hbit hv
      refine .inl ⟨words.set i new, congrArg Prod.fst (hflips words hl hword).value, ?_⟩
      exact fun he => hnew.ne hv (eq_getElem_of_set_eq hi he)
    · obtain ⟨f, hf⟩ := readWord_of_foreign (not_exists.mp hv)
      exact .inr ⟨f, congrArg Prod.fst (flips_of_foreign hl hplace hword hf).value⟩
  · exact .inr ⟨_, congrArg Prod.fst (flips_of_length hl s).value⟩

theorem flipWordBit_ne {words ws : List String} {s : σ}
    (h : (flipWordBit words s).1 = .ok ws) : ws ≠ words := by
  rcases flipWordBit_cases words s with ⟨us, hus, hne⟩ | ⟨f, hf⟩
  · obtain rfl := Except.ok.inj (h.symm.trans hus)
    exact hne
  · rw [hf] at h
    contradiction

/-- Four words that all read can be changed. -/
theorem flipWordBit_ok {words : List String} (hl : words.length = wordSize)
    (hr : ∀ w ∈ words, ∃ v, Hex.readWord w = .ok v) (s : σ) :
    ∃ ws, (flipWordBit words s).1 = .ok ws := by
  rcases hplace : Random.index wordSize (by decide) s with ⟨i, t⟩
  have hi : i.val < words.length := hl.symm ▸ i.isLt
  obtain ⟨v, hv⟩ := hr _ (List.getElem_mem hi)
  have hread : readWord words[i.val] = .ok v := by rw [readWord, hv, mapError_ok]
  have hflips := flips_of_word hl hplace (List.getElem?_eq_getElem hi) hread rfl
  exact ⟨_, congrArg Prod.fst hflips.value⟩

/-- The field of the claim that is touched. -/
def field : Corruption scheme → String
  | chainLength => "chain_length"
  | output => "output"
  | message => "message"
  | publicKey => "public_key"

/-- The change of the field from one value to another, with the words drawn from `s`. -/
def Changes : Corruption scheme → σ → Json → Json → Prop
  | chainLength, s, v, w => ∃ n, Claim.isChainLength n = true ∧
      v = .integer n ∧ w = .integer (shifted (Random.coin s).1 n)
  | output, s, v, w | publicKey, s, v, w => ∃ words ws,
      v = .strings words ∧ w = .strings ws ∧ (flipWordBit words s).1 = .ok ws
  | message, s, v, w => ∃ text t,
      v = .string text ∧ w = .string t ∧ (flipCharBit text s).1 = .ok t

/-- The chain length of the claim stands at the top of its range and is to go up. -/
def Saturates : Corruption scheme → Json → σ → Prop
  | chainLength, claim, s => claim.field? "chain_length" = some (.integer Claim.maxChainLength) ∧
      (Random.coin s).1 = true
  | output, _, _ | message, _, _ | publicKey, _, _ => False

open Json

theorem rescueOfValue_eq_ok {v : Json} {claim : RescueClaim} (h : Claim.rescueOfValue v = .ok claim) :
    ∃ fs, v = .object fs ∧ fs.lookup "output" = some (strings claim.output) ∧
      fs.lookup "chain_length" = some (integer claim.chainLength) ∧
      Claim.isChainLength claim.chainLength = true ∧
      claim.extra = fs.filter fun f => !(RescueClaim.fieldNames.contains f.1) := by
  unfold Claim.rescueOfValue at h
  cases v with
  | object fs =>
    simp only [RescueClaim.ofValue?] at h
    cases ho : (fs.lookup "output").bind strings? with
    | none => simp [ho] at h
    | some ws =>
      cases hn : (fs.lookup "chain_length").bind integer? with
      | none => simp [ho, hn] at h
      | some n =>
        by_cases hr : Claim.isChainLength n = true
        · simp only [ho, hn, hr, Option.bind_eq_bind, Option.bind_some, ↓reduceIte,
            Except.ok.injEq] at h
          subst h
          obtain ⟨x, hx, hxs⟩ := Option.bind_eq_some_iff.mp ho
          obtain ⟨y, hy, hyn⟩ := Option.bind_eq_some_iff.mp hn
          rw [strings?_eq_some.mp hxs] at hx
          rw [integer?_eq_some.mp hyn] at hy
          exact ⟨fs, rfl, hx, hy, hr, rfl⟩
        · simp [ho, hn, hr] at h
  | null | bool b | number n | string s | array xs => simp [RescueClaim.ofValue?] at h

theorem ziggyOfValue_eq_ok {v : Json} {claim : ZiggyClaim} (h : Claim.ziggyOfValue v = .ok claim) :
    ∃ fs, v = .object fs ∧ fs.lookup "message" = some (.string claim.message) ∧
      fs.lookup "public_key" = some (strings claim.publicKey) ∧
      claim.extra = fs.filter fun f => !(ZiggyClaim.fieldNames.contains f.1) := by
  unfold Claim.ziggyOfValue at h
  cases v with
  | object fs =>
    simp only [ZiggyClaim.ofValue?] at h
    cases ho : (fs.lookup "message").bind string? with
    | none => simp [ho] at h
    | some t =>
      cases hn : (fs.lookup "public_key").bind strings? with
      | none => simp [ho, hn] at h
      | some ws =>
        simp only [ho, hn, Option.bind_eq_bind, Option.bind_some, Except.ok.injEq] at h
        subst h
        obtain ⟨x, hx, hxs⟩ := Option.bind_eq_some_iff.mp ho
        obtain ⟨y, hy, hyn⟩ := Option.bind_eq_some_iff.mp hn
        rw [string?_eq_some.mp hxs] at hx
        rw [strings?_eq_some.mp hyn] at hy
        exact ⟨fs, rfl, hx, hy, rfl⟩
  | null | bool b | number n | string s | array xs => simp [ZiggyClaim.ofValue?] at h

/-- The corrupted value is the value with the touched field set anew. -/
theorem apply_eq_ok {c : Corruption scheme} {v w : Json} {s t : σ} (hv : Ordered v)
    (h : c.apply v s = (.ok w, t)) :
    ∃ fs old new, v = .object fs ∧ fs.lookup c.field = some old ∧
      w = .object (setField c.field new fs) ∧ c.Changes s old new := by
  cases scheme with
  | rescue =>
    simp only [apply] at h
    cases hc : Claim.rescueOfValue v with
    | error e => simp [hc] at h
    | ok claim =>
      obtain ⟨fs, rfl, ho, hn, hr, he⟩ := rescueOfValue_eq_ok hc
      have hs := hv.sorted
      have hvalue : ∀ a n, RescueClaim.toValue ⟨a, n, claim.extra⟩ =
          .object (setField "output" (strings a) (setField "chain_length" (integer n) fs)) := by
        intro a n
        rw [he]
        exact congrArg Json.object (sortFields_two (by decide) _ _ hs)
      simp only [hc, Prod.mk.injEq] at h
      obtain ⟨new, hnew, hw⟩ := except_map_eq_ok.mp h.1
      cases c with
      | chainLength =>
        simp only [corruptRescue, Except.ok.injEq] at hnew
        subst hnew
        refine ⟨fs, _, integer (shifted (Random.coin s).1 claim.chainLength), rfl, hn, ?_,
          claim.chainLength, hr, rfl, rfl⟩
        rw [← hw, hvalue, setField_comm (by decide) _ _ hs, setField_of_lookup hs ho]
        rfl
      | output =>
        simp only [corruptRescue] at hnew
        obtain ⟨ws, hws, rfl⟩ := except_map_eq_ok.mp hnew
        refine ⟨fs, _, strings ws, rfl, ho, ?_, claim.output, ws, rfl, rfl, hws⟩
        rw [← hw, hvalue, setField_of_lookup hs hn]
        rfl
  | ziggy =>
    simp only [apply] at h
    cases hc : Claim.ziggyOfValue v with
    | error e => simp [hc] at h
    | ok claim =>
      obtain ⟨fs, rfl, ho, hn, he⟩ := ziggyOfValue_eq_ok hc
      have hs := hv.sorted
      have hvalue : ∀ m k, ZiggyClaim.toValue ⟨m, k, claim.extra⟩ =
          .object (setField "message" (.string m) (setField "public_key" (strings k) fs)) := by
        intro m k
        rw [he]
        exact congrArg Json.object (sortFields_two (by decide) _ _ hs)
      simp only [hc, Prod.mk.injEq] at h
      obtain ⟨new, hnew, hw⟩ := except_map_eq_ok.mp h.1
      cases c with
      | message =>
        simp only [corruptZiggy] at hnew
        obtain ⟨m, hm, rfl⟩ := except_map_eq_ok.mp hnew
        refine ⟨fs, _, .string m, rfl, ho, ?_, claim.message, m, rfl, rfl, hm⟩
        rw [← hw, hvalue, setField_of_lookup hs hn]
        rfl
      | publicKey =>
        simp only [corruptZiggy] at hnew
        obtain ⟨ws, hws, rfl⟩ := except_map_eq_ok.mp hnew
        refine ⟨fs, _, strings ws, rfl, hn, ?_, claim.publicKey, ws, rfl, rfl, hws⟩
        rw [← hw, hvalue, setField_comm (by decide) _ _ hs, setField_of_lookup hs ho]
        rfl

/-- The field really changes, or a chain length has no room to. -/
theorem Changes.ne {c : Corruption scheme} {s : σ} {fs : Fields} {v w : Json}
    (h : c.Changes s v w) (hv : fs.lookup c.field = some v) (hs : ¬ c.Saturates (.object fs) s) :
    w ≠ v := by
  cases c with
  | chainLength =>
    obtain ⟨n, _, rfl, rfl⟩ := h
    intro he
    have hn : shifted (Random.coin s).1 n = n := by simpa [integer] using he
    obtain ⟨rfl, hup⟩ := shifted_eq_self.mp hn
    exact hs ⟨hv, hup⟩
  | output =>
    obtain ⟨words, ws, rfl, rfl, hws⟩ := h
    intro he
    exact flipWordBit_ne hws (strings_injective he)
  | message =>
    obtain ⟨text, t, rfl, rfl, ht⟩ := h
    intro he
    exact flipCharBit_ne ht (Json.string.inj he)
  | publicKey =>
    obtain ⟨words, ws, rfl, rfl, hws⟩ := h
    intro he
    exact flipWordBit_ne hws (strings_injective he)

/-- A corrupted claim is another claim, or a chain length has no room to move. -/
theorem apply_ne {c : Corruption scheme} {v w : Json} {s t : σ} (hv : Ordered v)
    (h : c.apply v s = (.ok w, t)) (hs : ¬ c.Saturates v s) : w ≠ v := by
  obtain ⟨fs, old, new, rfl, hold, rfl, hc⟩ := apply_eq_ok hv h
  intro he
  have hlook := lookup_setField c.field c.field new fs
  rw [Json.object.inj he, hold, if_pos rfl] at hlook
  exact hc.ne hold hs (Option.some.inj hlook).symm

/-- A changed field is as good a value as it was. -/
theorem Changes.value {c : Corruption scheme} {s : σ} {v w : Json} (h : c.Changes s v w) :
    Ordered w ∧ Integral w ∧ ∀ d, Within d v → Within d w := by
  have hwords : ∀ words ws : List String, Ordered (strings ws) ∧ Integral (strings ws) ∧
      ∀ d, Within d (strings words) → Within d (strings ws) := by
    intro words ws
    refine ⟨ordered_strings ws, integral_strings ws, ?_⟩
    intro d hd
    cases hd with
    | array _ => exact within_strings _ ws
  cases c with
  | chainLength =>
    obtain ⟨n, hn, rfl, rfl⟩ := h
    refine ⟨.number _, .integer ?_ ?_, fun d _ => .number d _⟩
    · exact le_trans (by decide) (shifted_pos (Random.coin s).1 n).le
    · exact le_trans (shifted_le (Random.coin s).1 n) (by decide)
  | output =>
    obtain ⟨words, ws, rfl, rfl, _⟩ := h
    exact hwords words ws
  | message =>
    obtain ⟨text, t, rfl, rfl, _⟩ := h
    exact ⟨.string t, .string t, fun d _ => .string d t⟩
  | publicKey =>
    obtain ⟨words, ws, rfl, rfl, _⟩ := h
    exact hwords words ws

theorem rescueOfValue_eq_error {v : Json} {e : Error} (h : Claim.rescueOfValue v = .error e) :
    e = Claim.malformed := by
  unfold Claim.rescueOfValue at h
  split at h
  · contradiction
  · exact (Except.error.inj h).symm

theorem ziggyOfValue_eq_error {v : Json} {e : Error} (h : Claim.ziggyOfValue v = .error e) :
    e = Claim.malformed := by
  unfold Claim.ziggyOfValue at h
  split at h
  · contradiction
  · exact (Except.error.inj h).symm

theorem flipWordBit_eq_error {words : List String} {s : σ} {e : Error}
    (h : (flipWordBit words s).1 = .error e) : ∃ f, e = .invalidParameter f := by
  rcases flipWordBit_cases words s with ⟨ws, hws, _⟩ | ⟨f, hf⟩
  · rw [hws] at h
    contradiction
  · exact ⟨f, Except.error.inj (h.symm.trans hf)⟩

theorem flipCharBit_eq_error {message : String} {s : σ} {e : Error}
    (h : (flipCharBit message s).1 = .error e) : ∃ f, e = .invalidParameter f := by
  by_cases hm : message = ""
  · rw [flipCharBit_empty hm] at h
    exact ⟨.messageEmpty, (Except.error.inj h).symm⟩
  · obtain ⟨t, ht, _⟩ := flipCharBit_ok hm s
    rw [ht] at h
    contradiction

/-- A claim that is not of the scheme's shape, or a field that cannot be changed. -/
theorem apply_eq_error {c : Corruption scheme} {v : Json} {s t : σ} {e : Error}
    (h : c.apply v s = (.error e, t)) :
    e = Claim.malformed ∨ ∃ f, e = .invalidParameter f := by
  cases scheme with
  | rescue =>
    simp only [apply] at h
    cases hc : Claim.rescueOfValue v with
    | error f =>
      simp only [hc, Prod.mk.injEq, Except.error.injEq] at h
      exact .inl (h.1 ▸ rescueOfValue_eq_error hc)
    | ok claim =>
      simp only [hc, Prod.mk.injEq] at h
      have he := except_map_eq_error.mp h.1
      cases c with
      | chainLength => simp [corruptRescue] at he
      | output => exact .inr (flipWordBit_eq_error (except_map_eq_error.mp he))
  | ziggy =>
    simp only [apply] at h
    cases hc : Claim.ziggyOfValue v with
    | error f =>
      simp only [hc, Prod.mk.injEq, Except.error.injEq] at h
      exact .inl (h.1 ▸ ziggyOfValue_eq_error hc)
    | ok claim =>
      simp only [hc, Prod.mk.injEq] at h
      have he := except_map_eq_error.mp h.1
      cases c with
      | message => exact .inr (flipCharBit_eq_error (except_map_eq_error.mp he))
      | publicKey => exact .inr (flipWordBit_eq_error (except_map_eq_error.mp he))

end Corruption
end ProofTrial
