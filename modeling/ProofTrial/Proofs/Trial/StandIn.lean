import ProofTrial.Proofs.StandIn
import ProofTrial.Proofs.StandIn.Arguments
import ProofTrial.Proofs.Trial.Damage
import ProofTrial.Proofs.Trial.Inputs

/-! Trials against the stand-in. Whatever is drawn, every scenario of the tables passes once its
inputs are prepared, except that a corrupted claim may hide behind a collision of digests. -/
namespace ProofTrial
open Json StandIn

variable {σ : Type} [RandomSource σ] {scheme : Scheme}

theorem RescueClaim.toValue_eq (output : List String) (n : Int) :
    RescueClaim.toValue ⟨output, n, []⟩ =
      .object [("chain_length", .integer n), ("output", .strings output)] := by
  simp (disch := decide) only [toValue, fields, ofFields, List.foldl_cons, List.foldl_nil,
    setField_before, setField_nil]

theorem ZiggyClaim.toValue_eq (message : String) (key : List String) :
    ZiggyClaim.toValue ⟨message, key, []⟩ =
      .object [("message", .string message), ("public_key", .strings key)] := by
  simp (disch := decide) only [toValue, fields, ofFields, List.foldl_cons, List.foldl_nil,
    setField_after, setField_nil]

theorem rescueOfValue_toValue {output : List String} {n : Int}
    (h : Claim.isChainLength n = true) :
    Claim.rescueOfValue (RescueClaim.toValue ⟨output, n, []⟩) = .ok ⟨output, n, []⟩ := by
  have ho : (strings output).strings? = some output := strings?_eq_some.mpr rfl
  have hn : (integer n).integer? = some n := integer?_eq_some.mpr rfl
  rw [RescueClaim.toValue_eq]
  simp [Claim.rescueOfValue, RescueClaim.ofValue?, lookup_cons, ho, hn, h, RescueClaim.fieldNames]

theorem ziggyOfValue_toValue (message : String) (key : List String) :
    Claim.ziggyOfValue (ZiggyClaim.toValue ⟨message, key, []⟩) = .ok ⟨message, key, []⟩ := by
  have hk : (strings key).strings? = some key := strings?_eq_some.mpr rfl
  rw [ZiggyClaim.toValue_eq]
  simp [Claim.ziggyOfValue, ZiggyClaim.ofValue?, lookup_cons, string?, hk, ZiggyClaim.fieldNames]

/-- The words of a row can be changed. -/
theorem Row.flipWordBit_toHex (row : Row) (s : σ) :
    ∃ ws, (Corruption.flipWordBit row.toHex s).1 = .ok ws := by
  apply Corruption.flipWordBit_ok
  · simp [toHex, wordSize]
  · intro w hw
    obtain ⟨x, _, rfl⟩ := List.mem_map.mp hw
    exact ⟨x.val, Hex.readWord_word (lt_trans x.isLt (by decide))⟩

/-- Inputs that the stand-in understands, with a claim that every corruption changes. -/
structure Ready (scheme : Scheme) (inputs : ProverInputs) : Prop where
  fits : inputs.parameters.Fits
  claim : Faithful inputs.publicInput
  secret : Faithful inputs.privateInput
  config : Faithful inputs.config.toJson
  known : schemeOf inputs.publicInput = scheme
  corruptible : ∀ {σ : Type} [RandomSource σ] (c : Corruption scheme) (s : σ),
    ∃ claim, (c.apply inputs.publicInput s).1 = .ok claim ∧ ¬ c.Saturates inputs.publicInput s

theorem faithful_config : Faithful ProverConfig.standard.toJson := by
  have hn : Integral (.integer 256) := .integer (by decide) (by decide)
  refine .object (sorted_singleton _) ?_
  intro f hf
  rw [List.mem_singleton.mp hf]
  exact ⟨hn, ordered_integer 256, within_integer _ 256⟩

theorem faithful_witness (p : ChainProof) : Faithful p.privateInput := by
  have hrows : ∀ v ∈ p.witness.toHexRows.map strings,
      Integral v ∧ Ordered v ∧ Within (maxDepth - 3) v := by
    intro v hv
    obtain ⟨row, _, rfl⟩ := List.mem_map.mp hv
    exact ⟨integral_strings row, ordered_strings row, within_strings _ row⟩
  refine .object (sorted_singleton _) ?_
  intro f hf
  rw [List.mem_singleton.mp hf]
  exact ⟨.array fun v hv => (hrows v hv).1, .array fun v hv => (hrows v hv).2.1,
    .array fun v hv => (hrows v hv).2.2⟩

theorem faithful_key (k : KeyPair) : Faithful k.privateInput := by
  refine .object (sorted_singleton _) ?_
  intro f hf
  rw [List.mem_singleton.mp hf]
  exact ⟨.string _, .string _, .string _ _⟩

/-- Chains of the length that trials draw or take. -/
theorem ready_rescueClaim {p : ChainProof}
    (h : p.witness.chainLength ≤ Witness.maxRandomLength) :
    Faithful (ProverInputs.rescueClaim p).toValue ∧
      ∀ (c : Corruption .rescue) (s : σ), ∃ claim,
        (c.apply (ProverInputs.rescueClaim p).toValue s).1 = .ok claim ∧
          ¬ c.Saturates (ProverInputs.rescueClaim p).toValue s := by
  have hle : p.witness.chainLength ≤ 96 := h
  have hread : Claim.rescueOfValue (ProverInputs.rescueClaim p).toValue =
      .ok (ProverInputs.rescueClaim p) := by
    apply rescueOfValue_toValue
    have hmin : Claim.minChainLength ≤ p.witness.chainLength :=
      le_trans (by decide) (Int.natCast_nonneg _)
    have hmax : (p.witness.chainLength : Int) ≤ Claim.maxChainLength :=
      le_trans (Int.ofNat_le.mpr hle) (by decide)
    simp [Claim.isChainLength, hmin, hmax]
  have hvalue : (ProverInputs.rescueClaim p).toValue = .object [
      ("chain_length", .integer p.witness.chainLength), ("output", .strings p.output.toHex)] :=
    RescueClaim.toValue_eq _ _
  constructor
  · have hw : Within (maxDepth - 2) (strings p.output.toHex) := within_strings (maxDepth - 3) _
    rw [hvalue]
    refine .object (sorted_of_names ["chain_length", "output"] rfl (by decide)) ?_
    simp [integral_nat (lt_of_le_of_lt hle (by decide)), ordered_integer, within_integer,
      integral_strings, ordered_strings, hw]
  · intro c s
    cases c with
    | chainLength =>
      simp only [Corruption.apply, hread, Corruption.corruptRescue, Except.map]
      refine ⟨_, rfl, ?_⟩
      intro hs
      have hlength := hs.1
      rw [hvalue] at hlength
      have hbig : (p.witness.chainLength : Int) = Claim.maxChainLength := by
        simpa [field?, lookup_cons, integer] using hlength
      have hlt : (p.witness.chainLength : Int) < Claim.maxChainLength :=
        lt_of_le_of_lt (Int.ofNat_le.mpr hle) (by decide)
      exact absurd hbig hlt.ne
    | output =>
      obtain ⟨ws, hws⟩ := Row.flipWordBit_toHex p.output s
      have hflip : (Corruption.flipWordBit (ProverInputs.rescueClaim p).output s).1 = .ok ws := hws
      simp only [Corruption.apply, hread, Corruption.corruptRescue, hflip, Except.map]
      exact ⟨_, rfl, fun hs => hs⟩

theorem ready_ziggyClaim (k : KeyPair) :
    Faithful (ProverInputs.ziggyClaim ProverInputs.scenarioMessage k).toValue ∧
      ∀ (c : Corruption .ziggy) (s : σ), ∃ claim,
        (c.apply (ProverInputs.ziggyClaim ProverInputs.scenarioMessage k).toValue s).1 =
            .ok claim ∧
          ¬ c.Saturates (ProverInputs.ziggyClaim ProverInputs.scenarioMessage k).toValue s := by
  have hread := ziggyOfValue_toValue ProverInputs.scenarioMessage k.publicKey.toHex
  have hvalue := ZiggyClaim.toValue_eq ProverInputs.scenarioMessage k.publicKey.toHex
  unfold ProverInputs.ziggyClaim
  constructor
  · have hw : Within (maxDepth - 2) (strings k.publicKey.toHex) := within_strings (maxDepth - 3) _
    rw [hvalue]
    refine .object (sorted_of_names ["message", "public_key"] rfl (by decide)) ?_
    simp [Integral.string, Ordered.string, Within.string, integral_strings, ordered_strings, hw]
  · intro c s
    cases c with
    | message =>
      have hm : ProverInputs.scenarioMessage ≠ "" := by decide
      obtain ⟨text, ht, _⟩ := Corruption.flipCharBit_ok hm s
      simp only [Corruption.apply, hread, Corruption.corruptZiggy, ht, Except.map]
      exact ⟨_, rfl, fun hs => hs⟩
    | publicKey =>
      obtain ⟨ws, hws⟩ := Row.flipWordBit_toHex k.publicKey s
      simp only [Corruption.apply, hread, Corruption.corruptZiggy, hws, Except.map]
      exact ⟨_, rfl, fun hs => hs⟩

/-- Prepared inputs are ready, whatever was drawn. -/
theorem ready_of_prepare {source : InputSource} {zk : Bool} {permute : Permutation} {s t : σ}
    {inputs : ProverInputs}
    (h : ProverInputs.prepare scheme source zk permute s = (.ok inputs, t)) :
    Ready scheme inputs := by
  cases scheme with
  | rescue =>
    obtain ⟨hfits, hconfig, p, hlength, hclaim, hsecret⟩ := ProverInputs.prepareRescue_eq_ok h
    have hvalue := hclaim.trans (RescueClaim.toValue_eq _ _)
    refine ⟨hfits, ?_, hsecret ▸ faithful_witness p, hconfig ▸ faithful_config, ?_, ?_⟩
    · rw [hclaim]
      exact (ready_rescueClaim (σ := σ) hlength).1
    · rw [hvalue]
      rfl
    · rw [hclaim]
      exact fun c s => (ready_rescueClaim hlength).2 c s
  | ziggy =>
    obtain ⟨hfits, hconfig, k, hclaim, hsecret⟩ := ProverInputs.prepareZiggy_eq_ok h
    have hvalue := hclaim.trans (ZiggyClaim.toValue_eq _ _)
    refine ⟨hfits, ?_, hsecret ▸ faithful_key k, hconfig ▸ faithful_config, ?_, ?_⟩
    · rw [hclaim]
      exact (ready_ziggyClaim (σ := σ) k).1
    · rw [hvalue]
      rfl
    · rw [hclaim]
      exact fun c s => (ready_ziggyClaim k).2 c s

/-- A scenario of the tables is honest, or damages the proof, or corrupts the claim. -/
theorem Scenario.table_cases {scenario : Scenario scheme} (h : scenario ∈ table scheme) :
    (scenario.expectation = .accept ∧ scenario.mutation = .identity ∧
      scenario.corruption = none) ∨
    (scenario.expectation = .reject ∧ scenario.mutation ≠ .identity ∧
      scenario.corruption = none) ∨
    (scenario.expectation = .reject ∧ scenario.mutation = .identity ∧
      scenario.corruption ≠ none) := by
  cases scheme with
  | rescue =>
    revert scenario
    decide
  | ziggy =>
    revert scenario
    decide

namespace StandIn

variable {p : ProverParameters}

/-- How a run ended that writes where the trial looks. -/
def Run.ended (r : Run) : Ended (Option ByteArray) where
  code := some r.code
  stderr := r.stderr.toUTF8
  output := r.written.map String.toUTF8

theorem ended_target (output : String) (r : Run) :
    ended output ⟨r, some output⟩ = .ended r.ended := by
  rw [ended, if_pos rfl]
  rfl

theorem Run.says_line {r : Run} {marker : String} (h : r.stderr = marker ++ "\n") :
    r.ended.Says marker := by
  rw [Ended.Says, Run.ended, Text.ofBytesLossy_toUTF8, h, String.toList_append]
  exact (List.prefix_append _ _).isInfix

theorem judgement_code (p : ProverParameters) (a : Artifact) :
    (judgement p a).ended.code = some 0 ∨ (judgement p a).ended.code = some 1 := by
  unfold judgement
  split_ifs
  · exact .inl rfl
  · exact .inr rfl

/-- The stand-in accepts what it made. -/
theorem passes_accept {claim : Json} (h : schemeOf claim = scheme) :
    Trial.Passes scheme .accept (made p claim) (judgement p (made p claim)).ended := by
  have hj : judgement p (made p claim) = ⟨0, scheme.successMarker ++ "\n",
      some (made p claim).annotationLog⟩ := by
    rw [judgement, if_pos (by rfl), ← h]
    rfl
  rw [hj]
  exact ⟨rfl, Run.says_line rfl, rfl⟩

/-- The stand-in rejects every other proof. -/
theorem passes_reject {a b : Artifact} (h : schemeOf b.publicInput = scheme)
    (hne : b.proofHex ≠ expectedProof p.value b.publicInput) :
    Trial.Passes scheme .reject a (judgement p b).ended := by
  have hj : judgement p b = ⟨1, scheme.failureMarker ++ "\n", none⟩ := by
    rw [judgement, if_neg hne, h]
  rw [hj]
  exact ⟨by simp [Run.ended], Run.says_line rfl⟩

theorem proofLength_made (hp : p.Fits) (claim : Json) :
    (made p claim).proofLength = 32 * p.fri.queries := by
  have hd := paired_blockDigits p.value claim
  have hsize : (made p claim).proofHex.utf8ByteSize = 2 + 64 * p.fri.queries := by
    have hascii : ∀ c ∈ '0' :: 'x' :: blockDigits p.value claim, c.toNat < 128 := by
      intro c hc
      simp only [List.mem_cons] at hc
      rcases hc with rfl | rfl | hc
      · decide
      · decide
      · exact Hex.toNat_lt_of_isDigit (hd.digits c hc)
    have hl := length_blockDigits p.value claim
    rw [blockCount_value hp] at hl
    rw [made, expectedProof_eq, ProofHex.ofPayload, Hex.utf8ByteSize_ofList_eq_length.mpr hascii]
    simp only [List.length_cons, hl]
    omega
  have hne : (made p claim).proofHex ≠ ProofHex.emptyProof := hd.ne_empty.symm
  rw [Artifact.proofLength, if_neg hne, hsize]
  omega

/-- Corruption does not move a claim to another scheme. -/
theorem schemeOf_frame {c : Option (Corruption scheme)} {v w : Json}
    (h : Trial.ClaimFrame c v w) : schemeOf w = schemeOf v := by
  cases c with
  | none =>
    obtain rfl : w = v := h
    rfl
  | some c =>
    obtain ⟨fs, gs, rfl, rfl, hnames, _⟩ := h
    have hkey : ((object gs).field? "public_key").isSome =
        ((object fs).field? "public_key").isSome := by
      rw [field?, field?, Bool.eq_iff_iff, isSome_lookup, isSome_lookup, hnames]
    rw [schemeOf, schemeOf, hkey]

/-- The stand-in is on both sides of the bench. -/
structure Plays (bench : Bench) : Prop where
  prover : bench.prover.run = runProver
  verifier : bench.verifier.run = runVerifier

variable {bench : Bench}

theorem prove_of_plays (hb : Plays bench) {inputs : ProverInputs} (h : Ready scheme inputs) :
    Trial.prove bench (Trial.proverCallOf bench inputs) =
      .ok (made inputs.parameters inputs.publicInput) := by
  have hproof := proof_eq h.fits h.claim h.secret h.config
    (Trial.fileIn bench "parameters.json") (Trial.fileIn bench "public_input.json")
    (Trial.fileIn bench "private_input.json") (Trial.fileIn bench "prover_config.json")
  have hrun : bench.prover.run (Trial.proverCallOf bench inputs) = .ended (Run.ended ⟨0,
      "Proof generated successfully.\n",
      some (artifact inputs.parameters.value inputs.publicInput inputs.parameters true).pretty⟩) := by
    rw [hb.prover, runProver_proverCall, ended_target]
    simp only [prove, found, Trial.proverCallOf, hproof]
  exact Trial.prove_eq_ok.mpr ⟨_, hrun, rfl, load_artifact h.fits h.claim _⟩

/-- With both sides played by the stand-in, the verifier judges what the damage left. -/
theorem judged_of_plays (hb : Plays bench) {inputs : ProverInputs} (h : Ready scheme inputs)
    {scenario : Scenario scheme} {s s₁ s₂ : σ} {b : Artifact}
    (hp : Trial.prepared bench scenario s = (.ok inputs, s₁))
    (hd : Trial.damage scenario (made inputs.parameters inputs.publicInput) s₁ = (.ok b, s₂)) :
    Trial.Judged bench scenario s (made inputs.parameters inputs.publicInput)
      (judgement inputs.parameters b).ended := by
  obtain ⟨hl, hi, hdamaged⟩ := Trial.damaged_of_damage (loaded_made h.fits h.claim)
    (integral_made h.fits h.claim) hd
  have hx : b.extra.lookup "proof_parameters" = some inputs.parameters.value := by
    rw [hdamaged.extra]
    rfl
  have hv := verify_save h.fits hl hi hx (Trial.modifiedPath bench)
  have hrun : bench.verifier.run (Trial.verifierCallOf bench b) =
      .ended (judgement inputs.parameters b).ended := by
    rw [hb.verifier, runVerifier_verifierCall, ended_target]
    simp only [found, Trial.verifierCallOf, hv]
  exact ⟨s₁, b, s₂, Trial.proved_iff.mpr ⟨inputs, hp, prove_of_plays hb h⟩, hd, hrun⟩

/-- What a passing trial of the stand-in reports. -/
def outcome (expectation : Expectation) (queries : Nat) : Outcome where
  verifierExitCode :=
    match expectation with
    | .accept => some 0
    | .reject => some 1
  proofBytes := 32 * queries
  queries := queries

/-- The verdict on the judgement decides, and a passing trial reports its outcome. -/
theorem result_of_judgement {inputs : ProverInputs} (h : Ready scheme inputs)
    {scenario : Scenario scheme} {s s₁ : σ} {b : Artifact}
    (hp : Trial.prepared bench scenario s = (.ok inputs, s₁))
    (hj : Trial.Judged bench scenario s (made inputs.parameters inputs.publicInput)
      (judgement inputs.parameters b).ended) :
    (Trial.Passes scheme scenario.expectation (made inputs.parameters inputs.publicInput)
        (judgement inputs.parameters b).ended →
      (Trial.run bench scenario s).result =
        .ok (outcome scenario.expectation inputs.parameters.fri.queries)) ∧
    ∀ o, (Trial.run bench scenario s).result = .ok o →
      o = outcome scenario.expectation inputs.parameters.fri.queries := by
  obtain ⟨inputs', hp', hresult⟩ := Trial.result_of_judged hj
  rw [hp] at hp'
  obtain rfl := Except.ok.inj hp'
  have hcode : Trial.Passes scheme scenario.expectation
      (made inputs.parameters inputs.publicInput) (judgement inputs.parameters b).ended →
      (⟨(judgement inputs.parameters b).ended.code,
        (made inputs.parameters inputs.publicInput).proofLength,
        inputs.parameters.fri.queries⟩ : Outcome) =
        outcome scenario.expectation inputs.parameters.fri.queries := by
    intro hpass
    rw [proofLength_made h.fits]
    cases hx : scenario.expectation with
    | accept =>
      simp only [Trial.Passes, hx] at hpass
      rw [hpass.1]
      rfl
    | reject =>
      simp only [Trial.Passes, hx] at hpass
      rw [(judgement_code inputs.parameters b).resolve_left hpass.1]
      rfl
  constructor
  · intro hpass
    rw [hresult, Trial.checkOutcome_eq_ok.mpr hpass]
    exact congrArg Except.ok (hcode hpass)
  · intro o ho
    rw [hresult] at ho
    obtain ⟨_, hc, rfl⟩ := except_map_eq_ok.mp ho
    exact hcode (Trial.checkOutcome_eq_ok.mp hc)

theorem damage_made {inputs : ProverInputs} (h : Ready scheme inputs)
    (scenario : Scenario scheme) (s : σ) :
    ∃ b t, Trial.damage scenario (made inputs.parameters inputs.publicInput) s = (.ok b, t) := by
  have hproof := (loaded_made h.fits h.claim).proof
  cases hc : scenario.corruption with
  | none => exact ⟨_, _, Trial.damage_of_none hproof hc s⟩
  | some c =>
    rw [Trial.damage_of_some hproof hc]
    obtain ⟨claim, hclaim, _⟩ := h.corruptible c
      (scenario.mutation.transform (made inputs.parameters inputs.publicInput).proofHex s).2
    have hsame : (made inputs.parameters inputs.publicInput).publicInput = inputs.publicInput := rfl
    rw [hsame, hclaim]
    exact ⟨_, _, rfl⟩

/-- A mutated proof is not the proof of the claim that it comes with. -/
theorem passes_mutated {inputs : ProverInputs} (h : Ready scheme inputs)
    {scenario : Scenario scheme} {s : σ} {b : Artifact}
    (hd : Trial.Damaged scenario s (made inputs.parameters inputs.publicInput) b)
    (hm : scenario.mutation ≠ .identity) (hc : scenario.corruption = none) :
    Trial.Passes scheme .reject (made inputs.parameters inputs.publicInput)
      (judgement inputs.parameters b).ended := by
  have hclaim : b.publicInput = inputs.publicInput := by
    have hframe := hd.claim
    rw [hc] at hframe
    exact hframe
  apply passes_reject
  · rw [hclaim, h.known]
  · rw [hd.proof, hclaim]
    exact Mutation.transform_ne (loaded_made h.fits h.claim).proof
      (paired_blockDigits _ _).ne_empty.symm hm s

/-- The proof is not the proof of a corrupted claim, unless the first blocks collide. -/
theorem passes_corrupted {inputs : ProverInputs} (h : Ready scheme inputs)
    {scenario : Scenario scheme} {c : Corruption scheme} {s t : σ} {b : Artifact}
    (hm : scenario.mutation = .identity) (hc : scenario.corruption = some c)
    (hd : Trial.damage scenario (made inputs.parameters inputs.publicInput) s = (.ok b, t)) :
    ∃ claim, (c.apply inputs.publicInput s).1 = .ok claim ∧
      blockMessage inputs.parameters.value inputs.publicInput 0 ≠
        blockMessage inputs.parameters.value claim 0 ∧
      (Blake2s.digest (blockMessage inputs.parameters.value inputs.publicInput 0) ≠
          Blake2s.digest (blockMessage inputs.parameters.value claim 0) →
        Trial.Passes scheme .reject (made inputs.parameters inputs.publicInput)
          (judgement inputs.parameters b).ended) := by
  have hloaded := loaded_made h.fits h.claim
  obtain ⟨hl, hi, hdamaged⟩ :=
    Trial.damaged_of_damage hloaded (integral_made h.fits h.claim) hd
  obtain ⟨claim, hclaim, hsat⟩ := h.corruptible c s
  have hb : b = { made inputs.parameters inputs.publicInput with publicInput := claim } := by
    rw [Trial.damage_of_some hloaded.proof hc, hm, Mutation.transform_identity] at hd
    have hsame : (made inputs.parameters inputs.publicInput).publicInput = inputs.publicInput :=
      rfl
    rw [hsame, hclaim] at hd
    exact (Except.ok.inj (Prod.mk.inj hd).1).symm
  have hpublic : b.publicInput = claim := by rw [hb]
  have hproof : b.proofHex = expectedProof inputs.parameters.value inputs.publicInput := by
    rw [hb]
    rfl
  have hne : claim ≠ inputs.publicInput :=
    Corruption.apply_ne h.claim.inside.1 (Prod.ext hclaim rfl) hsat
  refine ⟨claim, hclaim, ?_, ?_⟩
  · exact blockMessage_ne h.claim.integral (hpublic ▸ hi.publicInput) h.claim.inside
      (hpublic ▸ hl.publicInput) hne.symm 0
  · intro hdigest
    apply passes_reject
    · rw [schemeOf_frame hdamaged.claim]
      exact h.known
    · rw [hproof, hpublic]
      intro he
      exact hdigest (digest_eq_of_expectedProof_eq he)

/-- Every scenario of the tables passes against the stand-in once its inputs are prepared. Only a
corrupted claim may go unnoticed, and then two different first blocks have one digest. -/
theorem run_of_plays (bench : Bench) (hb : Plays bench) (scenario : Scenario scheme)
    (hscenario : scenario ∈ Scenario.table scheme) (s s₁ : σ) (inputs : ProverInputs)
    (hp : Trial.prepared bench scenario s = (.ok inputs, s₁)) :
    (scenario.corruption = none → (Trial.run bench scenario s).result =
      .ok (outcome scenario.expectation inputs.parameters.fri.queries)) ∧
    (∀ c, scenario.corruption = some c →
      ∃ claim, (c.apply inputs.publicInput s₁).1 = .ok claim ∧
        blockMessage inputs.parameters.value inputs.publicInput 0 ≠
          blockMessage inputs.parameters.value claim 0 ∧
        (Blake2s.digest (blockMessage inputs.parameters.value inputs.publicInput 0) ≠
            Blake2s.digest (blockMessage inputs.parameters.value claim 0) →
          (Trial.run bench scenario s).result =
            .ok (outcome scenario.expectation inputs.parameters.fri.queries))) ∧
    ∀ o, (Trial.run bench scenario s).result = .ok o →
      o = outcome scenario.expectation inputs.parameters.fri.queries := by
  have hready : Ready scheme inputs := ready_of_prepare hp
  obtain ⟨b, s₂, hd⟩ := damage_made hready scenario s₁
  have hdamaged := (Trial.damaged_of_damage (loaded_made hready.fits hready.claim)
    (integral_made hready.fits hready.claim) hd).2.2
  obtain ⟨hpass, honly⟩ := result_of_judgement hready hp (judged_of_plays hb hready hp hd)
  refine ⟨?_, ?_, honly⟩
  · intro hnone
    apply hpass
    rcases Scenario.table_cases hscenario with ⟨he, hm, _⟩ | ⟨he, hm, _⟩ | ⟨_, _, hsome⟩
    · rw [he, hdamaged.honest hm hnone]
      exact passes_accept hready.known
    · rw [he]
      exact passes_mutated hready hdamaged hm hnone
    · exact absurd hnone hsome
  · intro c hc
    rcases Scenario.table_cases hscenario with ⟨_, _, hnone⟩ | ⟨_, _, hnone⟩ | ⟨he, hm, _⟩
    · exact absurd (hc.symm.trans hnone) (Option.some_ne_none c)
    · exact absurd (hc.symm.trans hnone) (Option.some_ne_none c)
    · obtain ⟨claim, hclaim, hne, hreject⟩ := passes_corrupted hready hm hc hd
      refine ⟨claim, hclaim, hne, fun hdigest => hpass ?_⟩
      rw [he]
      exact hreject hdigest

/-- A bench with the stand-in and a constant permutation. -/
def sampleBench : Bench where
  prover := prover "prover"
  verifier := verifier "verifier"
  permutation := fun _ => .ok (Vector.replicate 4 .zero)
  limit := .ofSeconds 1
  scratch := "scratch"

theorem run_of_plays_sample :
    (∃ queries, (Trial.run sampleBench
        (.accept "golden" .golden false : Scenario .rescue) (WordCycle.ofWords [0])).result =
      .ok (outcome .accept queries)) ∧
    ∃ parameters claim corrupted queries,
      blockMessage parameters claim 0 ≠ blockMessage parameters corrupted 0 ∧
      (Blake2s.digest (blockMessage parameters claim 0) ≠
          Blake2s.digest (blockMessage parameters corrupted 0) →
        (Trial.run sampleBench (.corrupted "claim_output" false .output)
          (WordCycle.ofWords [0])).result = .ok (outcome .reject queries)) := by
  constructor
  · exact ⟨_, (run_of_plays sampleBench ⟨rfl, rfl⟩ _ (by decide) _ _ _ rfl).1 rfl⟩
  · obtain ⟨claim, _, hne, hpass⟩ := (run_of_plays sampleBench ⟨rfl, rfl⟩
      (.corrupted "claim_output" false .output) (by decide) (WordCycle.ofWords [0]) _ _ rfl).2.1
        .output rfl
    exact ⟨_, _, claim, _, hne, hpass⟩

end StandIn
end ProofTrial
