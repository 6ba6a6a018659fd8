import ProofTrial.Proofs.StandIn

/-! What a proof of the stand-in binds. The verifier accepts an artifact exactly when its parameters
read and its proof is the one made from them and the claim. What is digested is two texts glued
together; where the first is that of parameters it is known where it ends, so two accepted artifacts
with one proof agree on both, up to a collision of digests. -/
namespace ProofTrial.StandIn
open Json

/-- The parameters in an artifact, as a value. -/
def parametersOf (artifact : Json) : Json := member "proof_parameters" artifact

/-- The claim in an artifact, as a value. -/
def claimOf (artifact : Json) : Json := member "public_input" artifact

/-- The proof that an artifact should hold. -/
def ownProof (artifact : Json) : String :=
  expectedProof (parametersOf artifact) (claimOf artifact)

/-- The parameters read, and the proof is letter by letter the one made from the artifact. -/
structure Genuine (artifact : Json) : Prop where
  parameters : ∃ p, typed (parametersOf artifact) = .ok p
  proof : member "proof_hex" artifact = .string (ownProof artifact)

/-- The messages of the first blocks are different and have one digest. -/
def Collide (a b : Json) : Prop :=
  blockMessage (parametersOf a) (claimOf a) 0 ≠ blockMessage (parametersOf b) (claimOf b) 0 ∧
    Blake2s.digest (blockMessage (parametersOf a) (claimOf a) 0) =
      Blake2s.digest (blockMessage (parametersOf b) (claimOf b) 0)

theorem ownProof_ne_empty (artifact : Json) : ownProof artifact ≠ "" := by
  intro h
  have hl := congrArg String.toList h
  simp [ownProof, expectedProof_eq, ProofHex.ofPayload] at hl

/-- A text that is missing counts as the empty one, which is no proof. -/
theorem proofText_iff {artifact : Json} :
    ((member "proof_hex" artifact).string?).getD "" = ownProof artifact ↔
      member "proof_hex" artifact = .string (ownProof artifact) := by
  cases hm : (member "proof_hex" artifact).string? with
  | none =>
    have hne : member "proof_hex" artifact ≠ .string (ownProof artifact) := by
      intro he
      rw [he] at hm
      contradiction
    simp [hne, (ownProof_ne_empty artifact).symm]
  | some t =>
    rw [string?_eq_some.mp hm]
    simp

theorem check_of_genuine {artifact : Json} (h : Genuine artifact) :
    ∃ lines, check artifact = some lines := by
  obtain ⟨p, hp⟩ := h.parameters
  unfold parametersOf at hp
  have ht := proofText_iff.mpr h.proof
  unfold ownProof parametersOf claimOf at ht
  simp only [check, hp, ht, ↓reduceIte]
  exact ⟨_, rfl⟩

theorem genuine_of_check {artifact : Json} {lines : List String}
    (h : check artifact = some lines) : Genuine artifact := by
  simp only [check] at h
  cases hp : typed (member "proof_parameters" artifact) with
  | error f => simp [hp] at h
  | ok p =>
    simp only [hp] at h
    split_ifs at h with ht
    exact ⟨⟨p, hp⟩, proofText_iff.mp ht⟩

/-- Acceptance is exit code 0 and writes the annotations that were asked for. -/
theorem verify_of_genuine {f : FileFlag} {artifact : Json} (hr : readValue f = .ok artifact)
    (h : Genuine artifact) (annotate : Bool) :
    (verify f annotate).code = 0 ∧ (verify f annotate).written.isSome = annotate := by
  obtain ⟨lines, hl⟩ := check_of_genuine h
  simp only [verify, hr, hl]
  cases annotate <;> simp

theorem verify_of_not_genuine {f : FileFlag} {artifact : Json} (hr : readValue f = .ok artifact)
    (h : ¬ Genuine artifact) (annotate : Bool) :
    (verify f annotate).code = 1 ∧ (verify f annotate).written = none := by
  have hl : check artifact = none :=
    Option.eq_none_iff_forall_ne_some.mpr fun lines hl => h (genuine_of_check hl)
  simp only [verify, hr, hl, and_self]

/-- Of the files that can be read, the verifier accepts those that are genuine. -/
theorem accepts_iff {f : FileFlag} {artifact : Json} (hr : readValue f = .ok artifact)
    (annotate : Bool) : (verify f annotate).code = 0 ↔ Genuine artifact := by
  constructor
  · intro hc
    by_contra hn
    rw [(verify_of_not_genuine hr hn annotate).1] at hc
    contradiction
  · exact fun h => (verify_of_genuine hr h annotate).1

/-- A member is one of the fields, or null. -/
theorem member_cases (name : String) (v : Json) :
    member name v = .null ∨ ∃ fs, v = .object fs ∧ (name, member name v) ∈ fs := by
  cases v with
  | object fs =>
    have he : member name (.object fs) = (fs.lookup name).getD .null := rfl
    cases hl : fs.lookup name with
    | none => exact .inl (by rw [he, hl, Option.getD_none])
    | some w =>
      refine .inr ⟨fs, rfl, ?_⟩
      rw [he, hl, Option.getD_some]
      exact mem_of_lookup hl
  | null | bool b | number n | string s | array xs => exact .inl rfl

theorem integral_member {v : Json} (h : Integral v) (name : String) : Integral (member name v) := by
  rcases member_cases name v with hn | ⟨fs, rfl, hf⟩
  · rw [hn]
    exact .null
  · cases h with
    | object h => exact h _ hf

theorem inside_member {d : Nat} {v : Json} (h : Ordered v ∧ Within d v) (name : String) :
    Ordered (member name v) ∧ Within d (member name v) := by
  rcases member_cases name v with hn | ⟨fs, rfl, hf⟩
  · rw [hn]
    exact ⟨.null, .null d⟩
  · obtain ⟨ho, hw⟩ := h
    constructor
    · cases ho with
      | object _ ho => exact ho _ hf
    · cases hw with
      | object hw => exact (hw _ hf).mono (Nat.le_succ _)

theorem inside_of_readValue {f : FileFlag} {v : Json} (h : readValue f = .ok v) :
    Ordered v ∧ Within maxDepth v := by
  obtain ⟨_, _, hv⟩ := TextFile.readJson_eq_ok h
  exact Node.ordered_of_value hv

/-- A bare number is read as no parameters. -/
theorem not_number_of_typed {v : Json} {p : ProverParameters} (h : typed v = .ok p) (n : Number) :
    v ≠ .number n := by
  rintro rfl
  simp [typed, ProverParameters.ofNode, Node.ofJson, Node.expectRecord, Node.expectObject] at h

/-- Where the parameters read, the message shows where they end and the claim begins. -/
theorem eq_of_blockMessage_eq {d : Nat} {p q c e : Json} {i : Nat} (hp : Integral p)
    (hq : Integral q) (hc : Integral c) (he : Integral e) (hpo : Ordered p ∧ Within d p)
    (hqo : Ordered q ∧ Within d q) (hco : Ordered c ∧ Within d c) (heo : Ordered e ∧ Within d e)
    (hpn : ∀ n, p ≠ .number n) (hqn : ∀ n, q ≠ .number n)
    (h : blockMessage p c i = blockMessage q e i) : p = q ∧ c = e := by
  simp only [blockMessage, ← List.append_assoc] at h
  have htexts := List.append_cancel_right h
  rw [← utf8_append, ← utf8_append] at htexts
  have hchars := congrArg String.toList (Hex.toUTF8_injective htexts)
  simp only [compact, String.toList_append, String.toList_ofList] at hchars
  obtain ⟨hpq, hce⟩ := compactChars_append_inj hp hq hpo hqo hpn hqn hchars
  exact ⟨hpq, compact_injective hc he hco heo (congrArg String.ofList hce)⟩

/-- Equal proofs of artifacts that are genuine come from one message, or the messages collide. -/
theorem eq_or_collide {f g : FileFlag} {a b : Json} (ha : readValue f = .ok a)
    (hb : readValue g = .ok b) (hai : Integral a) (hbi : Integral b) (hga : Genuine a)
    (hgb : Genuine b) (h : member "proof_hex" a = member "proof_hex" b) :
    (parametersOf a = parametersOf b ∧ claimOf a = claimOf b) ∨ Collide a b := by
  rw [hga.proof, hgb.proof] at h
  have hdigest := digest_eq_of_expectedProof_eq (Json.string.inj h)
  by_cases hm : blockMessage (parametersOf a) (claimOf a) 0 =
      blockMessage (parametersOf b) (claimOf b) 0
  · obtain ⟨p, hp⟩ := hga.parameters
    obtain ⟨q, hq⟩ := hgb.parameters
    have hia := inside_of_readValue ha
    have hib := inside_of_readValue hb
    exact .inl (eq_of_blockMessage_eq (integral_member hai _) (integral_member hbi _)
      (integral_member hai _) (integral_member hbi _) (inside_member hia _) (inside_member hib _)
      (inside_member hia _) (inside_member hib _) (not_number_of_typed hp) (not_number_of_typed hq)
      hm)
  · exact .inr ⟨hm, hdigest⟩

/-- Parameters of two queries and one fold. -/
def sampleParameters : ProverParameters := ⟨4, false, ⟨1, 2, [0, 1], 15⟩⟩

/-- What the verifier looks at, made from the sample parameters and an empty claim. -/
def sampleFields : Fields := [
  ("proof_hex", .string (expectedProof sampleParameters.value (.object []))),
  ("proof_parameters", sampleParameters.value),
  ("public_input", .object [])]

theorem fits_sampleParameters : sampleParameters.Fits :=
  ⟨by decide, ⟨by decide, by decide, by decide, by decide⟩, by decide⟩

theorem faithful_sampleFields {fs : Fields} (hs : Sorted fs)
    (h : ∀ f ∈ fs, f.2 = .null ∨ f ∈ sampleFields) : Faithful (.object fs) := by
  refine Faithful.object hs fun f hf => ?_
  have hp := fits_sampleParameters
  have hclaim : Ordered (.object []) := .object sorted_nil (by simp)
  rcases h f hf with hn | hm
  · rw [hn]
    exact ⟨.null, .null, .null _⟩
  · simp only [sampleFields, List.mem_cons, List.not_mem_nil, or_false] at hm
    rcases hm with rfl | rfl | rfl
    · exact ⟨.string _, .string _, .string _ _⟩
    · exact ⟨sampleParameters.integral_value hp, sampleParameters.ordered_value,
        (sampleParameters.within_value 0).mono (by decide)⟩
    · exact ⟨.object (by simp), hclaim, .object (by simp)⟩

theorem genuine_sampleFields {fs : Fields}
    (h : ∀ name ∈ sampleFields.map Prod.fst, fs.lookup name = sampleFields.lookup name) :
    Genuine (.object fs) := by
  have hmember : ∀ name ∈ sampleFields.map Prod.fst,
      member name (.object fs) = member name (.object sampleFields) := by
    intro name hn
    rw [member, member, field?, field?, h name hn]
  have hparameters : parametersOf (.object fs) = sampleParameters.value :=
    hmember "proof_parameters" (by decide)
  have hclaim : claimOf (.object fs) = .object [] := hmember "public_input" (by decide)
  refine ⟨⟨sampleParameters, ?_⟩, ?_⟩
  · rw [hparameters, typed_value fits_sampleParameters]
  · rw [ownProof, hparameters, hclaim]
    exact hmember "proof_hex" (by decide)

end ProofTrial.StandIn
