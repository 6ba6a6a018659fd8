import ProofTrial.Proofs.ArtifactFile
import ProofTrial.Proofs.Corruption
import ProofTrial.Proofs.Mutation
import ProofTrial.Proofs.Trial.Course

/-! The steps of a trial up to the verifier. Each is determined by what the programs did: the
prover's artifact loads or it does not, a loaded artifact takes every damage to its proof, and only
a claim may refuse. -/
namespace ProofTrial

theorem Ended.success_iff (e : Ended ο) : e.success = true ↔ e.code = some 0 := by
  simp [success]

theorem Program.start_eq_ok {p : Program ι ο} {limit : Timespan} {input : ι} {e : Ended ο} :
    p.start limit input = .ok e ↔ p.run input = .ended e := by
  unfold start
  cases p.run input <;> simp

theorem Program.start_eq_error {p : Program ι ο} {limit : Timespan} {input : ι} {e : Error}
    (h : p.start limit input = .error e) : e.kind ∈ ["external_process", "timeout"] := by
  unfold start at h
  split at h
  · obtain rfl := Except.error.inj h
    simp [Error.kind]
  · obtain rfl := Except.error.inj h
    simp [Error.kind]
  · contradiction

theorem TextFile.readText_eq_error {path : String} {content : Option ByteArray} {e : Error}
    (h : readText path content = .error e) : e.kind = "io" := by
  unfold readText at h
  split at h
  · obtain rfl := Except.error.inj h
    rfl
  · split at h
    · contradiction
    · obtain rfl := Except.error.inj h
      rfl

theorem Artifact.load_eq_error {path : String} {content : Option ByteArray} {e : Error}
    (h : load path content = .error e) : e.kind ∈ ["io", "json", "invalid_parameter"] := by
  unfold load at h
  cases hj : TextFile.readJson ofNode path content with
  | error f =>
    simp only [hj, Except.error.injEq] at h
    subst h
    unfold TextFile.readJson at hj
    cases ht : TextFile.readText path content with
    | error g =>
      simp only [ht, Except.error.injEq] at hj
      simp [← hj, TextFile.readText_eq_error ht]
    | ok text =>
      simp only [ht] at hj
      cases hd : Json.decodeText ofNode text with
      | error g =>
        rw [hd] at hj
        obtain rfl := Except.error.inj hj
        simp [Error.kind]
      | ok a => simp [hd] at hj
  | ok a =>
    simp only [hj] at h
    split at h
    · contradiction
    · obtain rfl := Except.error.inj h
      simp [Error.kind]

namespace Trial

variable {σ : Type} [RandomSource σ] {scheme : Scheme}

/-- A prover is done when it ended with 0 and left an artifact that loads. -/
theorem prove_eq_ok {bench : Bench} {call : ProverCall} {a : Artifact} :
    prove bench call = .ok a ↔ ∃ ended, bench.prover.run call = .ended ended ∧
      ended.code = some 0 ∧ Artifact.load (artifactPath bench) ended.output = .ok a := by
  unfold prove
  cases hs : bench.prover.start bench.limit call with
  | error e =>
    constructor
    · intro h
      contradiction
    · rintro ⟨ended, hr, _⟩
      rw [Program.start_eq_ok.mpr hr] at hs
      contradiction
  | ok ended =>
    have hr := Program.start_eq_ok.mp hs
    dsimp only
    constructor
    · intro h
      split at h
      next hc => exact ⟨ended, hr, (Ended.success_iff ended).mp hc, h⟩
      next => contradiction
    · rintro ⟨ended', hr', hc, hl⟩
      obtain rfl := Launch.ended.inj (hr.symm.trans hr')
      rw [if_pos ((Ended.success_iff ended).mpr hc), hl]

theorem prove_eq_error {bench : Bench} {call : ProverCall} {e : Error}
    (h : prove bench call = .error e) :
    e.kind ∈ ["external_process", "timeout", "io", "json", "invalid_parameter"] := by
  unfold prove at h
  cases hs : bench.prover.start bench.limit call with
  | error f =>
    simp only [hs, Except.error.injEq] at h
    subst h
    exact List.mem_append_left ["io", "json", "invalid_parameter"] (Program.start_eq_error hs)
  | ok ended =>
    simp only [hs] at h
    split at h
    · exact List.mem_append_right ["external_process", "timeout"] (Artifact.load_eq_error h)
    · obtain rfl := Except.error.inj h
      simp [Error.kind]

/-- The prover left `artifact`; `s₁` is left of the source. -/
def Proved (bench : Bench) (scenario : Scenario scheme) (s : σ) (artifact : Artifact) (s₁ : σ) :
    Prop :=
  ∃ inputs proved, prepared bench scenario s = (.ok inputs, s₁) ∧
    bench.prover.run (proverCallOf bench inputs) = .ended proved ∧ proved.code = some 0 ∧
    Artifact.load (artifactPath bench) proved.output = .ok artifact

theorem proved_iff {bench : Bench} {scenario : Scenario scheme} {s s₁ : σ} {artifact : Artifact} :
    Proved bench scenario s artifact s₁ ↔ ∃ inputs,
      prepared bench scenario s = (.ok inputs, s₁) ∧
        prove bench (proverCallOf bench inputs) = .ok artifact := by
  constructor
  · rintro ⟨inputs, proved, hp, hrest⟩
    exact ⟨inputs, hp, prove_eq_ok.mpr ⟨proved, hrest⟩⟩
  · rintro ⟨inputs, hp, ha⟩
    obtain ⟨proved, hrest⟩ := prove_eq_ok.mp ha
    exact ⟨inputs, proved, hp, hrest⟩

theorem loaded_of_prove {bench : Bench} {call : ProverCall} {a : Artifact}
    (h : prove bench call = .ok a) : a.Loaded := by
  obtain ⟨ended, _, _, hl⟩ := prove_eq_ok.mp h
  exact Artifact.loaded_of_load hl

/-- Without a corruption only the proof is damaged. -/
theorem damage_of_none {a : Artifact} (h : ProofHex.isWellFormed a.proofHex = true)
    {scenario : Scenario scheme} (hc : scenario.corruption = none) (s : σ) :
    damage scenario a s = (.ok { a with proofHex := (scenario.mutation.transform a.proofHex s).1 },
      (scenario.mutation.transform a.proofHex s).2) := by
  simp only [damage, Mutation.apply_of_wellFormed h, hc]

/-- With a corruption the claim is changed next, if it can be. -/
theorem damage_of_some {a : Artifact} (h : ProofHex.isWellFormed a.proofHex = true)
    {scenario : Scenario scheme} {c : Corruption scheme} (hc : scenario.corruption = some c)
    (s : σ) :
    damage scenario a s =
      ((c.apply a.publicInput (scenario.mutation.transform a.proofHex s).2).1.map fun v =>
          { a with proofHex := (scenario.mutation.transform a.proofHex s).1, publicInput := v },
        (c.apply a.publicInput (scenario.mutation.transform a.proofHex s).2).2) := by
  simp only [damage, Mutation.apply_of_wellFormed h, hc]

/-- Only a corruption can refuse, on a claim that does not read or cannot be changed. -/
theorem damage_eq_error {a : Artifact} (h : ProofHex.isWellFormed a.proofHex = true)
    {scenario : Scenario scheme} {s t : σ} {e : Error}
    (hd : damage scenario a s = (.error e, t)) :
    scenario.corruption ≠ none ∧ e.kind ∈ ["json", "invalid_parameter"] := by
  cases hc : scenario.corruption with
  | none =>
    rw [damage_of_none h hc] at hd
    simp at hd
  | some c =>
    rw [damage_of_some h hc] at hd
    have he := Json.except_map_eq_error.mp (Prod.mk.inj hd).1
    refine ⟨Option.some_ne_none c, ?_⟩
    rcases Corruption.apply_eq_error (Prod.ext he rfl) with rfl | ⟨f, rfl⟩
    · simp [Claim.malformed, Error.kind]
    · simp [Error.kind]

end Trial
end ProofTrial
