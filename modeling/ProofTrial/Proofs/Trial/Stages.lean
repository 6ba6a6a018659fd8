import ProofTrial.Proofs.Trial.Verdict

/-! The stages of a trial. Whatever the programs do, what happens is a prefix of one fixed script,
and the stage reported last says what a failing trial may have failed with. -/
namespace ProofTrial

/-- What an event is, without its data. -/
inductive Mark where
  | stage (stage : Stage)
  | prover
  | verifier
  deriving DecidableEq, Repr

namespace Mark

def ofEvent : Event → Mark
  | .reached p => .stage p.stage
  | .proverCalled _ => .prover
  | .verifierCalled _ => .verifier

def stage? : Mark → Option Stage
  | .stage s => some s
  | _ => none

/-- Everything that can happen in a trial. -/
def script : List Mark := [.stage .init, .stage .inputsPrepared, .prover, .stage .proved,
  .stage .mutated, .verifier, .stage .verified, .stage .asserted]

end Mark

namespace Trial

variable {σ : Type} {scheme : Scheme}

def marks (t : Trial σ) : List Mark := t.events.map Mark.ofEvent

/-- The stages that are among some events. -/
def stagesOf (events : List Event) : List Stage :=
  (events.filterMap Event.progress?).map Progress.stage

theorem stagesOf_eq_marks (events : List Event) :
    stagesOf events = (events.map Mark.ofEvent).filterMap Mark.stage? := by
  rw [stagesOf, List.map_filterMap, List.filterMap_map]
  apply List.filterMap_congr
  intro e _
  cases e <;> rfl

theorem stages_eq_marks (t : Trial σ) : t.stages = t.marks.filterMap Mark.stage? :=
  stagesOf_eq_marks t.events

theorem length_proverCalls (t : Trial σ) : t.proverCalls.length = t.marks.count .prover := by
  unfold proverCalls marks
  induction t.events with
  | nil => rfl
  | cons e es ih => cases e <;> simp [List.filterMap_cons, Event.proverCall?, Mark.ofEvent, ih]

theorem length_verifierCalls (t : Trial σ) : t.verifierCalls.length = t.marks.count .verifier := by
  unfold verifierCalls marks
  induction t.events with
  | nil => rfl
  | cons e es ih => cases e <;> simp [List.filterMap_cons, Event.verifierCall?, Mark.ofEvent, ih]

/-- In front of a mark that stands at one place of the script is the script up to that place. -/
theorem stages_before {t : Trial σ} (h : t.marks <+: Mark.script) {before rest : List Event}
    {e : Event} (he : t.events = before ++ e :: rest) {m : Mark} (hm : Mark.ofEvent e = m) {n : Nat}
    (hn : ∀ i < Mark.script.length, Mark.script[i]? = some m → i = n) :
    stagesOf before = (Mark.script.take n).filterMap Mark.stage? := by
  have hmarks : t.marks = before.map Mark.ofEvent ++ m :: rest.map Mark.ofEvent := by
    simp [marks, he, hm]
  rw [hmarks] at h
  obtain ⟨more, hs⟩ := h
  have hget : Mark.script[before.length]? = some m := by
    rw [← hs]
    simp
  have hlt : before.length < Mark.script.length := (List.getElem?_eq_some_iff.mp hget).1
  have hl : before.length = n := hn before.length hlt hget
  have htake : Mark.script.take n = before.map Mark.ofEvent := by
    rw [← hs, ← hl]
    simp
  rw [stagesOf_eq_marks, htake]

/-- The errors that a trial may end with after the stage it reported last. -/
def FailsAfter [RandomSource σ] (bench : Bench) (scenario : Scenario scheme) (s : σ) :
    Stage → Error → Prop
  | .init, e => (prepared bench scenario s).1 = .error e
  | .inputsPrepared, e =>
    e.kind ∈ ["external_process", "timeout", "io", "json", "invalid_parameter"]
  | .proved, e => scenario.corruption ≠ none ∧ e.kind ∈ ["json", "invalid_parameter"]
  | .mutated, e => e.kind ∈ ["external_process", "timeout"]
  | .verified, e =>
    e.kind ∈ ["unexpected_rejection", "outcome_mismatch", "annotation_mismatch", "io"]
  | .asserted, _ => False

variable [RandomSource σ]

section Run

variable (bench : Bench) (scenario : Scenario scheme) (s : σ)

theorem marks_run : Mark.stage .init ∈ (run bench scenario s).marks ∧
    (run bench scenario s).marks <+: Mark.script := by
  have hcourse := course bench scenario s
  generalize run bench scenario s = t at hcourse
  cases hcourse <;> simp [marks, Mark.ofEvent, Mark.script]

theorem asserted_iff_ok : Stage.asserted ∈ (run bench scenario s).stages ↔
    ∃ o, (run bench scenario s).result = .ok o := by
  have hcourse := course bench scenario s
  generalize run bench scenario s = t at hcourse
  cases hcourse <;> simp

/-- Only a trial that passes comes to the last stage. -/
theorem lastStage_eq_asserted : (run bench scenario s).lastStage = .asserted ↔
    ∃ o, (run bench scenario s).result = .ok o := by
  have hcourse := course bench scenario s
  rw [lastStage_eq]
  generalize run bench scenario s = t at hcourse
  cases hcourse <;> simp

theorem failsAfter_lastStage {e : Error} (h : (run bench scenario s).result = .error e) :
    FailsAfter bench scenario s (run bench scenario s).lastStage e := by
  have hcourse := course bench scenario s
  rw [lastStage_eq]
  generalize run bench scenario s = t at h hcourse
  cases hcourse with
  | unprepared hp =>
    obtain rfl : _ = e := by simpa using h
    simp [FailsAfter, hp]
  | unproved hp ha =>
    obtain rfl : _ = e := by simpa using h
    exact prove_eq_error ha
  | undamaged hp ha hd =>
    obtain rfl : _ = e := by simpa using h
    exact damage_eq_error (loaded_of_prove ha).proof hd
  | unverified hp ha hd hv =>
    obtain rfl : _ = e := by simpa using h
    exact Program.start_eq_error hv
  | failed hp ha hd hv hc =>
    obtain rfl : _ = e := by simpa using h
    exact checkOutcome_eq_error hc
  | passed => simp at h

end Run

/-- Only the preparation of the inputs may report a defect. -/
theorem prepared_eq_of_defect {bench : Bench} {scenario : Scenario scheme} {s : σ} {stage : Stage}
    {e : Error} (h : FailsAfter bench scenario s stage e)
    (he : e.kind = "mutation_invariant" ∨ e.kind = "internal") :
    (prepared bench scenario s).1 = .error e := by
  cases stage with
  | init => exact h
  | inputsPrepared => rcases he with he | he <;> simp [FailsAfter, he] at h
  | proved => rcases he with he | he <;> simp [FailsAfter, he] at h
  | mutated => rcases he with he | he <;> simp [FailsAfter, he] at h
  | verified => rcases he with he | he <;> simp [FailsAfter, he] at h
  | asserted => exact h.elim

/-- Stages are reported in their order from the first on, all of them when the trial passes. Each
program is started at most once, after the stage that provides its files. A failure is one of those
that belong to the last stage, and no defect unless the inputs could not be prepared for one. -/
theorem run_stages (bench : Bench) (scenario : Scenario scheme) (s : σ) :
    ((run bench scenario s).stages ≠ [] ∧ (run bench scenario s).stages <+: Stage.all) ∧
    (Stage.asserted ∈ (run bench scenario s).stages ↔
      ∃ o, (run bench scenario s).result = .ok o) ∧
    ((run bench scenario s).proverCalls.length ≤ 1 ∧ ∀ before call rest,
      (run bench scenario s).events = before ++ .proverCalled call :: rest →
        Stage.inputsPrepared ∈ stagesOf before) ∧
    ((run bench scenario s).verifierCalls.length ≤ 1 ∧ ∀ before call rest,
      (run bench scenario s).events = before ++ .verifierCalled call :: rest →
        Stage.mutated ∈ stagesOf before) ∧
    ∀ e, (run bench scenario s).result = .error e →
      FailsAfter bench scenario s (run bench scenario s).lastStage e ∧
      (e.kind = "mutation_invariant" ∨ e.kind = "internal" →
        (prepared bench scenario s).1 = .error e) := by
  obtain ⟨hinit, hprefix⟩ := marks_run bench scenario s
  refine ⟨⟨?_, ?_⟩, asserted_iff_ok bench scenario s, ⟨?_, ?_⟩, ⟨?_, ?_⟩, ?_⟩
  · apply List.ne_nil_of_mem (a := Stage.init)
    rw [stages_eq_marks]
    exact List.mem_filterMap.mpr ⟨_, hinit, rfl⟩
  · rw [stages_eq_marks]
    exact hprefix.filterMap Mark.stage?
  · rw [length_proverCalls]
    exact hprefix.sublist.count_le Mark.prover
  · intro before call rest hevents
    rw [stages_before hprefix hevents (m := .prover) rfl (n := 2) (by decide)]
    decide
  · rw [length_verifierCalls]
    exact hprefix.sublist.count_le Mark.verifier
  · intro before call rest hevents
    rw [stages_before hprefix hevents (m := .verifier) rfl (n := 5) (by decide)]
    decide
  · intro e he
    have hf := failsAfter_lastStage bench scenario s he
    exact ⟨hf, prepared_eq_of_defect hf⟩

end Trial
end ProofTrial
