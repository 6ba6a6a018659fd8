import ProofTrial.Proofs.Trial.Verdict
import ProofTrial.Random.WordCycle

/-! What reaches the verifier. The file it is given loads as the prover's artifact with the proof
of the mutation and, under a corruption, one field of the claim set anew; everything else in it is
as the prover left it. -/
namespace ProofTrial.Trial
open Json

variable {σ : Type} [RandomSource σ] {scheme : Scheme}

/-- How the claim `w` comes from `v`: nothing but the field of the corruption differs. -/
def ClaimFrame (c : Option (Corruption scheme)) (v w : Json) : Prop :=
  match c with
  | none => w = v
  | some c => ∃ fs gs, v = .object fs ∧ w = .object gs ∧ gs.map Prod.fst = fs.map Prod.fst ∧
      ∀ name, name ≠ c.field → gs.lookup name = fs.lookup name

/-- How the artifact `b` comes from `a` by the damage of a scenario, with draws from `s`. -/
structure Damaged (scenario : Scenario scheme) (s : σ) (a b : Artifact) : Prop where
  annotations : b.annotations = a.annotations
  extra : b.extra = a.extra
  proof : b.proofHex = (scenario.mutation.transform a.proofHex s).1
  claim : ClaimFrame scenario.corruption a.publicInput b.publicInput
  honest : scenario.mutation = .identity → scenario.corruption = none → b = a
  mutated : scenario.mutation ≠ .identity → a.proofHex ≠ ProofHex.emptyProof → b ≠ a
  corrupted : ∀ c, scenario.corruption = some c →
    ¬ c.Saturates a.publicInput (scenario.mutation.transform a.proofHex s).2 → b ≠ a

/-- The mutated proof differs from the proof. -/
theorem proof_ne {scenario : Scenario scheme} {s : σ} {a b : Artifact}
    (hw : ProofHex.isWellFormed a.proofHex = true)
    (hb : b.proofHex = (scenario.mutation.transform a.proofHex s).1)
    (hm : scenario.mutation ≠ .identity) (he : a.proofHex ≠ ProofHex.emptyProof) : b ≠ a := by
  rintro rfl
  exact Mutation.transform_ne hw he hm s hb.symm

/-- The changed claim is as readable as the claim. -/
theorem inside_setField {c : Corruption scheme} {s : σ} {fs : Fields} {old new : Json}
    (hi : Artifact.Inside (.object fs)) (hold : fs.lookup c.field = some old)
    (hc : c.Changes s old new) : Artifact.Inside (.object (setField c.field new fs)) := by
  obtain ⟨hv, _, hw⟩ := hc.value
  obtain ⟨hord, hwithin⟩ := hi
  constructor
  · cases hord with
    | object hs h =>
      refine .object hs.setField ?_
      intro f hf
      rcases mem_setField hf with rfl | hf
      · exact hv
      · exact h f hf
  · cases hwithin with
    | object h =>
      refine .object ?_
      intro f hf
      rcases mem_setField hf with rfl | hf
      · exact hw _ (h _ (mem_of_lookup hold))
      · exact h f hf

theorem integral_setField {c : Corruption scheme} {s : σ} {fs : Fields} {old new : Json}
    (hi : Integral (.object fs)) (hc : c.Changes s old new) :
    Integral (.object (setField c.field new fs)) := by
  obtain ⟨_, hn, _⟩ := hc.value
  cases hi with
  | object h =>
    refine .object ?_
    intro f hf
    rcases mem_setField hf with rfl | hf
    · exact hn
    · exact h f hf

/-- Damage keeps an artifact loadable and changes no more than it says. -/
theorem damaged_of_damage {scenario : Scenario scheme} {s t : σ} {a b : Artifact}
    (hl : a.Loaded) (hi : a.Integral) (hd : damage scenario a s = (.ok b, t)) :
    b.Loaded ∧ b.Integral ∧ Damaged scenario s a b := by
  have hproof := Mutation.isWellFormed_transform hl.proof scenario.mutation s
  cases hc : scenario.corruption with
  | none =>
    rw [damage_of_none hl.proof hc] at hd
    obtain rfl := Except.ok.inj (Prod.mk.inj hd).1
    refine ⟨⟨hproof, hl.publicInput, hl.sorted, hl.unknown, hl.extra⟩,
      ⟨hi.publicInput, hi.extra⟩, rfl, rfl, rfl, ?_, ?_, proof_ne hl.proof rfl, ?_⟩
    · rw [hc]
      rfl
    · intro hm _
      rw [hm, Mutation.transform_identity]
    · intro c hsome
      rw [hc] at hsome
      contradiction
  | some c =>
    rw [damage_of_some hl.proof hc] at hd
    obtain ⟨w, hw, rfl⟩ := except_map_eq_ok.mp (Prod.mk.inj hd).1
    obtain ⟨fs, old, new, hfs, hold, rfl, hch⟩ :=
      Corruption.apply_eq_ok hl.publicInput.1 (Prod.ext hw rfl)
    have hs : Sorted fs := (hfs ▸ hl.publicInput.1).sorted
    refine ⟨⟨hproof, inside_setField (hfs ▸ hl.publicInput) hold hch, hl.sorted, hl.unknown,
      hl.extra⟩, ⟨integral_setField (hfs ▸ hi.publicInput) hch, hi.extra⟩, rfl, rfl, rfl, ?_, ?_,
      proof_ne hl.proof rfl, ?_⟩
    · rw [hc]
      refine ⟨fs, setField c.field new fs, hfs, rfl, names_setField hold hs, ?_⟩
      intro name hn
      rw [lookup_setField, if_neg hn]
    · intro _ hnone
      rw [hc] at hnone
      contradiction
    · intro c' hsome hsat he
      obtain rfl : c = c' := Option.some.inj (hc.symm.trans hsome)
      have hne := Corruption.apply_ne hl.publicInput.1 (Prod.ext hw rfl) hsat
      exact hne (congrArg Artifact.publicInput he)

/-- A trial that reports the damage starts the verifier on the damaged artifact. -/
theorem verifierCalls_of_mutated {bench : Bench} {scenario : Scenario scheme} {s : σ}
    (hm : Stage.mutated ∈ (run bench scenario s).stages) :
    ∃ a s₁ b s₂, Proved bench scenario s a s₁ ∧ damage scenario a s₁ = (.ok b, s₂) ∧
      (run bench scenario s).verifierCalls = [verifierCallOf bench b] := by
  have hcourse := course bench scenario s
  generalize run bench scenario s = t at hm hcourse ⊢
  cases hcourse with
  | unprepared | unproved | undamaged => simp at hm
  | unverified hp ha hd hv => exact ⟨_, _, _, _, proved_iff.mpr ⟨_, hp, ha⟩, hd, rfl⟩
  | failed hp ha hd hv hc => exact ⟨_, _, _, _, proved_iff.mpr ⟨_, hp, ha⟩, hd, rfl⟩
  | passed hp ha hd hv hc => exact ⟨_, _, _, _, proved_iff.mpr ⟨_, hp, ha⟩, hd, rfl⟩

/-- Damage that succeeds is reported. -/
theorem mutated_of_damage {bench : Bench} {scenario : Scenario scheme} {s s₁ s₂ : σ}
    {a b : Artifact} (hproved : Proved bench scenario s a s₁)
    (hd : damage scenario a s₁ = (.ok b, s₂)) :
    Stage.mutated ∈ (run bench scenario s).stages := by
  obtain ⟨inputs, hp, ha⟩ := proved_iff.mp hproved
  unfold prepared at hp
  simp [run, hp, attempt, ha, challenge, hd]

theorem Proved.unique {bench : Bench} {scenario : Scenario scheme} {s s₁ t₁ : σ} {a b : Artifact}
    (ha : Proved bench scenario s a s₁) (hb : Proved bench scenario s b t₁) :
    a = b ∧ s₁ = t₁ := by
  obtain ⟨inputs, hp, ha⟩ := proved_iff.mp ha
  obtain ⟨inputs', hp', hb⟩ := proved_iff.mp hb
  obtain ⟨hi, hs⟩ := Prod.mk.inj (hp.symm.trans hp')
  obtain rfl := Except.ok.inj hi
  exact ⟨Except.ok.inj (ha.symm.trans hb), hs⟩

/-- The file that the verifier is told to read loads as the prover's artifact, damaged as the scenario
says and in no other way. -/
theorem verifier_loads_damaged (bench : Bench) (scenario : Scenario scheme) (s s₁ : σ)
    (a : Artifact) (hproved : Proved bench scenario s a s₁) (hi : a.Integral)
    (hm : Stage.mutated ∈ (run bench scenario s).stages) :
    ∃ call b, (run bench scenario s).verifierCalls = [call] ∧
      "--in_file=" ++ call.artifact.path ∈ call.arguments ∧
      Artifact.load call.artifact.path (some call.artifact.text.toUTF8) = .ok b ∧
      Damaged scenario s₁ a b := by
  obtain ⟨a', t₁, b, s₂, hproved', hd, hcalls⟩ := verifierCalls_of_mutated hm
  obtain ⟨rfl, rfl⟩ := hproved.unique hproved'
  obtain ⟨inputs, hp, ha⟩ := proved_iff.mp hproved
  obtain ⟨hlb, hib, hdamaged⟩ := damaged_of_damage (loaded_of_prove ha) hi hd
  have hflag : flag "in_file" (modifiedPath bench) = "--in_file=" ++ modifiedPath bench := rfl
  have hload := Artifact.load_save hlb hib (modifiedPath bench)
  exact ⟨verifierCallOf bench b, b, hcalls, hflag ▸ List.mem_cons_self, hload, hdamaged⟩

def sampleArtifact : Artifact where
  proofHex := "0x0102"
  annotations := ["a line"]
  publicInput := .object [("chain_length", .integer 96), ("output", .strings ["0x1", "0x2"])]
  extra := [("note", .null)]

/-- The prover leaves the sample, and no verifier can be started. -/
def sampleBench : Bench where
  prover := ⟨"prover", true, fun _ => .ended ⟨some 0, .empty, some sampleArtifact.save.toUTF8⟩⟩
  verifier := .absent "verifier"
  permutation := .unconfigured
  limit := .ofSeconds 1
  scratch := "scratch"

/-- Both kinds of damage at once. -/
def sampleScenario : Scenario .rescue :=
  ⟨"sample", .reject, .golden, false, .truncateLastByte, some .chainLength⟩

def sampleSource : WordCycle := .ofWords [0]

theorem loaded_sampleArtifact : sampleArtifact.Loaded where
  proof := by decide
  publicInput := by
    constructor
    · refine .object (sorted_of_names ["chain_length", "output"] rfl (by decide)) ?_
      simp [ordered_integer, ordered_strings]
    · have hw : Within 125 (strings ["0x1", "0x2"]) := within_strings 124 _
      refine .object ?_
      simp [within_integer, hw]
  sorted := sorted_singleton _
  unknown := by decide
  extra := by
    intro f hf
    rw [List.mem_singleton.mp hf]
    exact ⟨.null, .null _⟩

theorem integral_sampleArtifact : sampleArtifact.Integral where
  publicInput := by
    have hn : Json.Integral (.integer 96) := .integer (by decide) (by decide)
    refine .object ?_
    simp [hn, integral_strings]
  extra := by
    intro f hf
    rw [List.mem_singleton.mp hf]
    exact .null

theorem proved_sample : Proved sampleBench sampleScenario sampleSource sampleArtifact
    (prepared sampleBench sampleScenario sampleSource).2 :=
  ⟨_, _, rfl, rfl, rfl, Artifact.load_save loaded_sampleArtifact integral_sampleArtifact _⟩

theorem verifier_loads_damaged_sample :
    Proved sampleBench sampleScenario sampleSource sampleArtifact
        (prepared sampleBench sampleScenario sampleSource).2 ∧
      sampleArtifact.Integral ∧
      Stage.mutated ∈ (run sampleBench sampleScenario sampleSource).stages ∧
      ∃ call b, (run sampleBench sampleScenario sampleSource).verifierCalls = [call] ∧
        "--in_file=" ++ call.artifact.path ∈ call.arguments ∧
        Artifact.load call.artifact.path (some call.artifact.text.toUTF8) = .ok b ∧
        b ≠ sampleArtifact := by
  have hm : Stage.mutated ∈ (run sampleBench sampleScenario sampleSource).stages :=
    mutated_of_damage proved_sample rfl
  obtain ⟨call, b, hcalls, hflag, hload, hd⟩ := verifier_loads_damaged sampleBench sampleScenario
    sampleSource _ sampleArtifact proved_sample integral_sampleArtifact hm
  have hne : b ≠ sampleArtifact := hd.mutated (by decide) (by decide)
  exact ⟨proved_sample, integral_sampleArtifact, hm, call, b, hcalls, hflag, hload, hne⟩

end ProofTrial.Trial
