import ProofTrial.StandIn
import Mathlib.Tactic

/-! What the stand-in is told by its arguments. Those that a trial starts its programs with read as
the options they were written for, and the files they name are found, so the stand-in proves with
the files of the trial and verifies the artifact that was saved. -/
namespace ProofTrial

/-- Among files with paths of their own each is found by its path. -/
theorem SavedFile.contentAt_of_mem {files : List SavedFile} {f : SavedFile}
    (hn : (files.map SavedFile.path).Nodup) (hf : f ∈ files) :
    contentAt files f.path = some f.text.toUTF8 := by
  obtain ⟨before, after, rfl⟩ := List.mem_iff_append.mp hf
  simp only [List.map_append, List.map_cons, List.nodup_append] at hn
  have hbefore : before.find? (·.path == f.path) = none := by
    rw [List.find?_eq_none]
    intro g hg
    have hne := hn.2.2 g.path (List.mem_map_of_mem hg) f.path List.mem_cons_self
    simpa using hne
  simp [contentAt, List.find?_append, hbefore]

theorem Trial.fileIn_inj {bench : Bench} {a b : String} : fileIn bench a = fileIn bench b ↔ a = b := by
  rw [fileIn, fileIn, String.append_right_inj]

theorem Trial.fileIn_ne_empty (bench : Bench) (name : String) : fileIn bench name ≠ "" := by
  intro h
  have hl := congrArg String.length h
  simp [fileIn] at hl

namespace CommandLine

/-- A name without an equals sign is read back, and all behind the first sign is the value. -/
theorem splitOption_flag {name : String} (h : '=' ∉ name.toList) (value : String) :
    splitOption (Trial.flag name value) = some (name, some value) := by
  have hne : ∀ c ∈ name.toList, (c != '=') = true := by
    intro c hc
    simpa using fun he : c = '=' => h (he ▸ hc)
  have hchars : (Trial.flag name value).toList =
      '-' :: '-' :: (name.toList ++ '=' :: value.toList) := by
    simp [Trial.flag]
  rw [splitOption, hchars]
  simp [List.takeWhile_append_of_pos hne, List.dropWhile_append_of_pos hne]

section Reading

variable {π : Type} {r : OptionReader π} {p : π} {argument name : String}

/-- Two dashes alone are an option without a name. -/
theorem ne_dashes {value? : Option String} (h : splitOption argument = some (name, value?))
    (hname : name ≠ "") : argument ≠ "--" := by
  rintro rfl
  have hdashes : splitOption "--" = some ("", none) := by decide
  rw [hdashes] at h
  exact hname (Prod.mk.inj (Option.some.inj h)).1.symm

theorem OptionReader.read_valued {value : String}
    (h : splitOption argument = some (name, some value)) (hname : name ≠ "")
    (hk : r.kind? p name = some .valued) (rest : List String) :
    r.read p (argument :: rest) = (r.add p name value >>= fun p => r.read p rest) := by
  have hdashes := ne_dashes h hname
  rw [OptionReader.read]
  · simp only [h, hk]
  · exact fun he _ => hdashes he
  · exact fun a _ he _ => hdashes he

theorem OptionReader.read_switch (h : splitOption argument = some (name, none))
    (hname : name ≠ "") (hk : r.kind? p name = some .switch) (rest : List String) :
    r.read p (argument :: rest) = (r.add p name "" >>= fun p => r.read p rest) := by
  have hdashes := ne_dashes h hname
  rw [OptionReader.read]
  · simp only [h, hk]
  · exact fun he _ => hdashes he
  · exact fun a _ he _ => hdashes he

end Reading

end CommandLine

namespace StandIn
open CommandLine Trial

section Options

variable {options : List (String × String)} {name : String} (hnew : options.lookup name = none)
include hnew

theorem read_file (hn : name ∈ fileOptions) {value : String} (hv : value ≠ "")
    (rest : List String) :
    reader.read options (flag name value :: rest) =
      reader.read ((name, value) :: options) rest := by
  have hname : name ≠ "" ∧ '=' ∉ name.toList ∧ optionKind? name = some .valued := by
    clear hnew
    revert name
    decide
  have hadd : reader.add options name value = .ok ((name, value) :: options) := by
    simp [reader, addOnce, hnew, hv]
  rw [OptionReader.read_valued (splitOption_flag hname.2.1 value) hname.1 hname.2.2, hadd]
  rfl

theorem read_switch (hn : name ∈ switches) (rest : List String) :
    reader.read options (("--" ++ name) :: rest) = reader.read ((name, "") :: options) rest := by
  have hname : name ≠ "" ∧ splitOption ("--" ++ name) = some (name, none) ∧
      optionKind? name = some .switch ∧ fileOptions.contains name = false := by
    clear hnew
    revert name
    decide
  have hadd : reader.add options name "" = .ok ((name, "") :: options) := by
    simp only [reader, addOnce, hnew, hname.2.2.2]
    rfl
  rw [OptionReader.read_switch hname.2.1 hname.1 hname.2.2.1, hadd]
  rfl

end Options

variable (bench : Bench)

theorem read_proverCall (inputs : ProverInputs) :
    reader.read [] (proverCallOf bench inputs).arguments = .ok [
      ("logtostderr", ""),
      ("prover_config_file", fileIn bench "prover_config.json"),
      ("generate_annotations", ""),
      ("out_file", artifactPath bench),
      ("private_input_file", fileIn bench "private_input.json"),
      ("public_input_file", fileIn bench "public_input.json"),
      ("parameter_file", fileIn bench "parameters.json")] := by
  have hpath := fileIn_ne_empty bench
  have hout : artifactPath bench ≠ "" := hpath "proof.json"
  have hannotate : "--generate_annotations" = "--" ++ "generate_annotations" := by decide
  have hlog : "--logtostderr" = "--" ++ "logtostderr" := by decide
  rw [proverCallOf, hannotate, hlog, read_file rfl (by decide) (hpath _),
    read_file rfl (by decide) (hpath _), read_file rfl (by decide) (hpath _),
    read_file rfl (by decide) hout, read_switch rfl (by decide),
    read_file rfl (by decide) (hpath _), read_switch rfl (by decide)]
  rfl

theorem read_verifierCall (artifact : Artifact) :
    reader.read [] (verifierCallOf bench artifact).arguments = .ok [
      ("logtostderr", ""),
      ("annotation_file", annotationPath bench),
      ("in_file", modifiedPath bench)] := by
  have hin : modifiedPath bench ≠ "" := fileIn_ne_empty bench "modified_proof.json"
  have hannotations : annotationPath bench ≠ "" :=
    fileIn_ne_empty bench "verifier_annotations.txt"
  have hlog : "--logtostderr" = "--" ++ "logtostderr" := by decide
  rw [verifierCallOf, hlog]
  dsimp only
  rw [read_file rfl (by decide) hin, read_file rfl (by decide) hannotations,
    read_switch rfl (by decide)]
  rfl

/-- A file that was saved, found by the option that names it. -/
def found (f : SavedFile) : FileFlag := ⟨f.path, some f.text.toUTF8⟩

/-- Started by a trial as its prover, the stand-in proves with the files of the trial and with
annotations, and writes where the trial looks. -/
theorem runProver_proverCall (inputs : ProverInputs) :
    let call := proverCallOf bench inputs
    runProver call = ended call.output ⟨prove ⟨some (found call.parameters),
      some (found call.publicInput), some (found call.privateInput), some (found call.config), true⟩,
      some call.output⟩ := by
  intro call
  have hn : (call.files.map SavedFile.path).Nodup := by
    simp [call, proverCallOf, ProverCall.files, fileIn_inj]
  have hfile : ∀ f ∈ call.files,
      (⟨f.path, SavedFile.contentAt call.files f.path⟩ : FileFlag) = found f := by
    intro f hf
    rw [SavedFile.contentAt_of_mem hn hf, found]
  rw [runProver, play, read_proverCall, ← hfile call.parameters (by simp [ProverCall.files]),
    ← hfile call.publicInput (by simp [ProverCall.files]),
    ← hfile call.privateInput (by simp [ProverCall.files]),
    ← hfile call.config (by simp [ProverCall.files])]
  rfl

/-- Started as its verifier, it verifies the artifact that the trial has saved. -/
theorem runVerifier_verifierCall (artifact : Artifact) :
    let call := verifierCallOf bench artifact
    runVerifier call =
      ended call.output ⟨verify (found call.artifact) true, some call.output⟩ := by
  intro call
  have hn : (call.files.map SavedFile.path).Nodup := List.nodup_singleton _
  have hfile : (⟨call.artifact.path, SavedFile.contentAt call.files call.artifact.path⟩ :
      FileFlag) = found call.artifact := by
    rw [SavedFile.contentAt_of_mem hn (List.mem_singleton_self _), found]
  rw [runVerifier, play, read_verifierCall, ← hfile]
  rfl

end StandIn
end ProofTrial
