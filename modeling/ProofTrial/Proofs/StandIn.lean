import ProofTrial.Proofs.ArtifactFile
import ProofTrial.Proofs.Mutation
import ProofTrial.Proofs.Parameters
import ProofTrial.StandIn

/-! The stand-in. Its proof has one block for each query and binds the parameters and the claim up to
a collision of digests. What it writes as a prover loads, and as a verifier it accepts exactly the
proof of the parameters and the claim it reads. -/
namespace ProofTrial.StandIn
open Json ProofHex

/-- The digits of the blocks. -/
def blockDigits (parameters claim : Json) : List Char :=
  (List.range (blockCount parameters)).flatMap fun i =>
    Hex.bytesDigits (Blake2s.digest (blockMessage parameters claim i)).toList

theorem expectedProof_eq (parameters claim : Json) :
    expectedProof parameters claim = ofPayload (blockDigits parameters claim) := rfl

theorem blockCount_pos (parameters : Json) : 0 < blockCount parameters := by
  unfold blockCount
  split
  · exact lt_of_lt_of_le Nat.one_pos (Nat.le_max_right _ _)
  · exact Nat.one_pos

theorem length_digestDigits (d : Digest) : (Hex.bytesDigits d.toList).length = 64 := by
  rw [Hex.length_bytesDigits, Vector.length_toList]

theorem length_blockDigits (parameters claim : Json) :
    (blockDigits parameters claim).length = 64 * blockCount parameters := by
  rw [blockDigits, List.length_flatMap]
  simp only [length_digestDigits, List.map_const', List.length_range, List.sum_replicate,
    smul_eq_mul]
  omega

theorem paired_blockDigits (parameters claim : Json) : Paired (blockDigits parameters claim) := by
  have hl := length_blockDigits parameters claim
  have hpos := blockCount_pos parameters
  refine ⟨?_, by omega, ?_⟩
  · apply List.ne_nil_of_length_pos
    omega
  · intro c hc
    obtain ⟨i, _, hi⟩ := List.mem_flatMap.mp hc
    exact Hex.isDigit_bytesDigits _ c hi

theorem isWellFormed_expectedProof (parameters claim : Json) :
    isWellFormed (expectedProof parameters claim) = true :=
  (paired_blockDigits parameters claim).wellFormed

/-- Proofs that agree have first blocks that agree. -/
theorem digest_eq_of_expectedProof_eq {p q c d : Json} (h : expectedProof p c = expectedProof q d) :
    Blake2s.digest (blockMessage p c 0) = Blake2s.digest (blockMessage q d 0) := by
  obtain ⟨n, hn⟩ := Nat.exists_eq_add_one.mpr (blockCount_pos p)
  obtain ⟨m, hm⟩ := Nat.exists_eq_add_one.mpr (blockCount_pos q)
  rw [expectedProof_eq, expectedProof_eq] at h
  have hb := ofPayload_inj h
  unfold blockDigits at hb
  rw [hn, hm, List.range_succ_eq_map, List.range_succ_eq_map, List.flatMap_cons,
    List.flatMap_cons] at hb
  obtain ⟨hfirst, _⟩ := List.append_inj hb (by rw [length_digestDigits, length_digestDigits])
  exact Vector.toList_inj.mp (Hex.bytesDigits_injective hfirst)

theorem utf8_append (a b : String) : utf8 (a ++ b) = utf8 a ++ utf8 b := by
  simp [utf8, String.toUTF8_eq_toByteArray]

/-- What is digested tells claims apart. -/
theorem blockMessage_ne {parameters c d : Json} {n : Nat} (hc : Integral c) (hd : Integral d)
    (ho : Ordered c ∧ Within n c) (hp : Ordered d ∧ Within n d) (h : c ≠ d) (i : Nat) :
    blockMessage parameters c i ≠ blockMessage parameters d i := by
  intro he
  have hcompact : utf8 c.compact = utf8 d.compact := by
    unfold blockMessage at he
    exact List.append_cancel_right (List.append_cancel_left he)
  exact h (compact_injective hc hd ho hp (Hex.toUTF8_injective hcompact))

/-- Values that stand in a file and read back as themselves, also inside an artifact. -/
structure Faithful (v : Json) : Prop where
  integral : Integral v
  inside : Artifact.Inside v

/-- Objects of values that are small and read back. -/
theorem Faithful.object {fs : Fields} (hs : Sorted fs)
    (h : ∀ f ∈ fs, Integral f.2 ∧ Ordered f.2 ∧ Within (maxDepth - 2) f.2) :
    Faithful (.object fs) :=
  ⟨.object fun f hf => (h f hf).1, .object hs fun f hf => (h f hf).2.1,
    .object fun f hf => (h f hf).2.2⟩

theorem Faithful.value {v : Json} (h : Faithful v) :
    Node.value maxDepth (Node.ofJson v) = .ok v :=
  Node.value_ofJson h.inside.1 (h.inside.2.mono (Nat.sub_le maxDepth 1))

theorem Faithful.readValue {v : Json} (h : Faithful v) (path : String) :
    readValue ⟨path, some v.pretty.toUTF8⟩ = .ok v := by
  rw [StandIn.readValue, TextFile.readJson_pretty h.integral, h.value]
  rfl

variable {p : ProverParameters}

theorem faithful_parameters (hp : p.Fits) : Faithful p.value :=
  ⟨p.integral_value hp, p.ordered_value, (p.within_value 0).mono (by decide)⟩

theorem readValue_parameters (hp : p.Fits) (path : String) :
    readValue ⟨path, some p.toJson.pretty.toUTF8⟩ = .ok p.value := by
  have hv : Node.value maxDepth (Node.ofJson p.toJson) = .ok p.value := p.value_toJson 123
  rw [StandIn.readValue, TextFile.readJson_pretty (p.integral_toJson hp), hv]
  rfl

theorem typed_value (hp : p.Fits) : typed p.value = .ok p := p.ofNode_value hp

theorem blockCount_value (hp : p.Fits) : blockCount p.value = p.fri.queries := by
  have hq : member "n_queries" (member "fri" (member "stark" p.value)) =
      .integer p.fri.queries := rfl
  have hpos := hp.queried
  rw [blockCount, hq]
  simp only [integer, integer?, Int.toNat_natCast]
  omega

/-- What the stand-in's prover leaves, as an artifact. -/
def made (p : ProverParameters) (claim : Json) : Artifact where
  proofHex := expectedProof p.value claim
  annotations := annotations p (expectedProof p.value claim)
  publicInput := claim
  extra := [("proof_parameters", p.value)]

/-- A run of the prover on files that read. -/
theorem proof_eq (hp : p.Fits) {claim witness config : Json} (hc : Faithful claim)
    (hw : Faithful witness) (hg : Faithful config) (a b c d : String) :
    proof ⟨some ⟨a, some p.toJson.pretty.toUTF8⟩, some ⟨b, some claim.pretty.toUTF8⟩,
      some ⟨c, some witness.pretty.toUTF8⟩, some ⟨d, some config.pretty.toUTF8⟩, true⟩ =
      .ok (artifact p.value claim p true).pretty := by
  simp only [proof, required, readValue_parameters hp, typed_value hp, hc.readValue, hw.readValue,
    hg.readValue, mapError_ok, bind, Except.bind]

theorem artifact_eq (claim : Json) : artifact p.value claim p true = .object [
    ("annotations", .strings (annotations p (expectedProof p.value claim))),
    ("proof_hex", .string (expectedProof p.value claim)),
    ("proof_parameters", p.value),
    ("public_input", claim)] := by
  simp (disch := decide) only [artifact, ofFields, List.foldl_cons, List.foldl_nil,
    setField_before, setField_after, setField_nil, ↓reduceIte]

/-- What the prover writes loads. -/
theorem load_artifact (hp : p.Fits) {claim : Json} (hc : Faithful claim) (path : String) :
    Artifact.load path (some (artifact p.value claim p true).pretty.toUTF8) =
      .ok (made p claim) := by
  have hf := faithful_parameters hp
  have hi : Integral (artifact p.value claim p true) := by
    rw [artifact_eq]
    refine .object ?_
    simp [integral_strings, Integral.string, hf.integral, hc.integral]
  have hclaim := Node.value_ofJson hc.inside.1 hc.inside.2
  have hparameters := Node.value_ofJson hf.inside.1 hf.inside.2
  have hnode : Artifact.ofNode (Node.ofJson (artifact p.value claim p true)) =
      .ok (made p claim) := by
    rw [artifact_eq, Node.ofJson]
    simp only [Artifact.ofNode, Node.ofFieldList, Node.expectObject, Node.foldFields,
      Artifact.readField, Node.once, Node.expectList_strings, Node.ofJson, Node.expectString,
      hparameters, hclaim, Except.map, setField, Node.endOf, Artifact.finish, Node.required]
    rfl
  rw [Artifact.load, TextFile.readJson_pretty hi, hnode]
  simp [made, isWellFormed_expectedProof]

theorem loaded_made (hp : p.Fits) {claim : Json} (hc : Faithful claim) : (made p claim).Loaded :=
  Artifact.loaded_of_load (load_artifact hp hc "")

theorem integral_made (hp : p.Fits) {claim : Json} (hc : Faithful claim) :
    (made p claim).Integral := by
  refine ⟨hc.integral, ?_⟩
  intro f hf
  rw [List.mem_singleton.mp hf]
  exact (faithful_parameters hp).integral

/-- The fields of an artifact that is saved. -/
def fieldsOf (a : Artifact) : Fields :=
  ("proof_hex", .string a.proofHex) :: ("annotations", .strings a.annotations) ::
    ("public_input", a.publicInput) :: a.extra

theorem nodup_fieldsOf {a : Artifact} (hl : a.Loaded) : ((fieldsOf a).map Prod.fst).Nodup := by
  have hnames : (fieldsOf a).map Prod.fst = Artifact.fieldNames ++ a.extra.map Prod.fst := rfl
  rw [hnames]
  apply List.Nodup.append (by decide) hl.sorted.nodup
  intro n hn hm
  obtain ⟨f, hf, rfl⟩ := List.mem_map.mp hm
  exact hl.unknown f hf hn

theorem member_ofFields (name : String) {fs : Fields} (h : (fs.map Prod.fst).Nodup) :
    member name (ofFields fs) = (fs.lookup name).getD .null := by
  rw [member, ofFields_eq, field?, lookup_sortFields name h]

/-- A saved artifact reads as the object of its fields. -/
theorem readValue_save {a : Artifact} (hl : a.Loaded) (hi : a.Integral) (path : String) :
    readValue ⟨path, some a.save.toUTF8⟩ = .ok (ofFields (fieldsOf a)) := by
  have hinside : ∀ f ∈ fieldsOf a, Artifact.Inside f.2 := by
    intro f hf
    simp only [fieldsOf, List.mem_cons] at hf
    rcases hf with rfl | rfl | rfl | hf
    · exact ⟨.string _, .string _ _⟩
    · exact ⟨ordered_strings _, within_strings _ _⟩
    · exact hl.publicInput
    · exact hl.extra f hf
  have hv : Node.value maxDepth (Node.ofJson (.object (fieldsOf a))) =
      .ok (ofFields (fieldsOf a)) :=
    Node.value_ofJson_object (Node.fieldValues_ofFieldList fun f hf =>
      Node.value_ofJson (hinside f hf).1 (hinside f hf).2)
  rw [readValue, Artifact.save, TextFile.readJson_pretty (Artifact.integral_toJson hi)]
  rw [show a.toJson = .object (fieldsOf a) from rfl, hv]
  rfl

/-- How the verifier ends on the artifact `a`. -/
def judgement (p : ProverParameters) (a : Artifact) : Run :=
  if a.proofHex = expectedProof p.value a.publicInput then
    ⟨0, (schemeOf a.publicInput).successMarker ++ "\n",
      some (AnnotationLog.ofList (annotations p a.proofHex))⟩
  else ⟨1, (schemeOf a.publicInput).failureMarker ++ "\n", none⟩

/-- The verifier looks at the proof, the claim and the parameters of an artifact. -/
theorem verify_save (hp : p.Fits) {a : Artifact} (hl : a.Loaded) (hi : a.Integral)
    (hx : a.extra.lookup "proof_parameters" = some p.value) (path : String) :
    verify ⟨path, some a.save.toUTF8⟩ true = judgement p a := by
  have hn := nodup_fieldsOf hl
  have hparameters : member "proof_parameters" (ofFields (fieldsOf a)) = p.value := by
    rw [member_ofFields _ hn]
    simp [fieldsOf, lookup_cons, hx]
  have hproof : member "proof_hex" (ofFields (fieldsOf a)) = .string a.proofHex := by
    rw [member_ofFields _ hn]
    rfl
  have hclaim : member "public_input" (ofFields (fieldsOf a)) = a.publicInput := by
    rw [member_ofFields _ hn]
    simp [fieldsOf, lookup_cons]
  have hcheck : check (ofFields (fieldsOf a)) =
      if a.proofHex = expectedProof p.value a.publicInput then some (annotations p a.proofHex)
      else none := by
    simp only [check, hparameters, hproof, hclaim, typed_value hp, string?, Option.getD_some]
  simp only [verify, readValue_save hl hi, hclaim, hcheck, judgement]
  split_ifs <;> rfl

end ProofTrial.StandIn
