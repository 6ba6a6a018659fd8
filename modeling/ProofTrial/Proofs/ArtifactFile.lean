import ProofTrial.Artifact
import ProofTrial.Proofs.Json.Layout
import ProofTrial.Proofs.Text.Utf8

/-! Artifacts in files. A loaded artifact has its unknown fields in order and none under a known
name; saved and loaded again it is the same artifact. -/
namespace ProofTrial

namespace TextFile

theorem readText_toUTF8 (path text : String) : readText path (some text.toUTF8) = .ok text := by
  rw [readText]
  simp only [Text.fromUTF8_toUTF8]

theorem readText_eq_ok {path text : String} {content : Option ByteArray} :
    readText path content = .ok text ↔ content = some text.toUTF8 := by
  constructor
  · intro h
    unfold readText at h
    split at h
    · simp at h
    next bytes =>
      cases hb : String.fromUTF8? bytes with
      | none => simp [hb] at h
      | some t =>
        simp only [hb, Except.ok.injEq] at h
        subst h
        unfold String.fromUTF8? at hb
        split at hb
        · obtain rfl := Option.some.inj hb
          rfl
        · simp at hb
  · rintro rfl
    exact readText_toUTF8 path text

open Json in
theorem readJson_pretty {v : Json} (hv : Integral v) (expect : Node → Except JsonFault α)
    (path : String) :
    readJson expect path (some v.pretty.toUTF8) = (expect (Node.ofJson v)).mapError (.json path) := by
  rw [readJson, readText_toUTF8, ← decodeText_pretty hv expect]

theorem readJson_eq_ok {expect : Json.Node → Except JsonFault α} {path : String}
    {content : Option ByteArray} {a : α} (h : readJson expect path content = .ok a) :
    ∃ text, content = some text.toUTF8 ∧ expect (Json.nodeOf text) = .ok a := by
  unfold readJson at h
  cases ht : readText path content with
  | error e => simp [ht] at h
  | ok text =>
    simp only [ht] at h
    refine ⟨text, readText_eq_ok.mp ht, ?_⟩
    cases hx : Json.decodeText expect text with
    | error f => simp [hx] at h
    | ok b =>
      simp only [hx] at h
      exact Except.ok.inj h ▸ Json.decodeText_eq_ok hx

end TextFile

namespace Json.Node

/-- What every field keeps, an object keeps. -/
theorem foldFields_invariant {β : Type} {step : β → String → Node → Except JsonFault β}
    {p : β → Prop} {fs : NodeFields}
    (hs : ∀ b name x c, (.ok name, x) ∈ fs → p b → step b name x = .ok c → p c) {b c : β}
    (hb : p b) (h : foldFields step b fs = .ok c) : p c := by
  induction fs generalizing b with
  | nil => exact Except.ok.inj h ▸ hb
  | cons f fs ih =>
    obtain ⟨name, x⟩ := f
    cases name with
    | error f => simp [foldFields] at h
    | ok name =>
      simp only [foldFields] at h
      cases hx : step b name x with
      | error f => simp [hx] at h
      | ok d =>
        simp only [hx] at h
        exact ih (fun b n y c hy => hs b n y c (List.mem_cons_of_mem _ hy))
          (hs b name x d List.mem_cons_self hb hx) h

theorem expectObject_eq_ok {β : Type} {step : β → String → Node → Except JsonFault β} {b c : β}
    {x : Node} (h : x.expectObject step b = .ok c) :
    ∃ fields, x = .object fields none ∧ foldFields step b fields = .ok c := by
  unfold expectObject at h
  split at h
  next fields fault =>
    cases hf : foldFields step b fields with
    | error f => simp [hf] at h
    | ok d =>
      simp only [hf] at h
      obtain ⟨_, he, rfl⟩ := except_map_eq_ok.mp h
      exact ⟨fields, by rw [endOf_eq_ok.mp he], hf⟩
  next => simp at h
  next => simp at h

theorem once_eq_ok {α : Type} {old : Option α} {new : Except JsonFault α} {r : Option α} :
    once old new = .ok r ↔ old = none ∧ ∃ a, new = .ok a ∧ r = some a := by
  unfold once
  split
  next => simp
  next =>
    rw [except_map_eq_ok]
    simp [eq_comm]

theorem expectList_strings (texts : List String) :
    expectList expectString (ofJson (strings texts)) = .ok texts :=
  expectList_expectString_eq_ok.mpr rfl

end Json.Node

namespace Artifact
open Json

/-- Values inside an artifact, as they are read. -/
def Inside (v : Json) : Prop := Ordered v ∧ Within (maxDepth - 1) v

/-- What every loaded artifact is. -/
structure Loaded (a : Artifact) : Prop where
  proof : ProofHex.isWellFormed a.proofHex = true
  publicInput : Inside a.publicInput
  sorted : Sorted a.extra
  unknown : ∀ f ∈ a.extra, f.1 ∉ fieldNames
  extra : ∀ f ∈ a.extra, Inside f.2

/-- All numbers in an artifact are integers of 64 bits. -/
structure Integral (a : Artifact) : Prop where
  publicInput : Json.Integral a.publicInput
  extra : ∀ f ∈ a.extra, Json.Integral f.2

/-- The part of `Loaded` that holds while the fields are read. -/
structure Partial.Fits (p : Partial) : Prop where
  publicInput : ∀ v, p.publicInput = some v → Inside v
  sorted : Sorted p.extra
  unknown : ∀ f ∈ p.extra, f.1 ∉ fieldNames
  extra : ∀ f ∈ p.extra, Inside f.2

theorem readField_unknown {name : String} (h : name ∉ fieldNames) (p : Partial) (x : Node) :
    readField p name x = (x.value (maxDepth - 1)).map fun v =>
      { p with extra := setField name v p.extra } := by
  simp only [fieldNames, List.mem_cons, List.not_mem_nil, or_false, not_or] at h
  unfold readField
  split <;> simp_all

/-- A field is one of the three, or a further one. -/
theorem readField_eq_ok {p q : Partial} {name : String} {x : Node}
    (h : readField p name x = .ok q) :
    (name = "proof_hex" ∧ ∃ t, q = { p with proofHex := t }) ∨
    (name = "annotations" ∧ ∃ ts, q = { p with annotations := ts }) ∨
    (name = "public_input" ∧ ∃ v, x.value (maxDepth - 1) = .ok v ∧
      q = { p with publicInput := some v }) ∨
    (name ∉ fieldNames ∧ ∃ v, x.value (maxDepth - 1) = .ok v ∧
      q = { p with extra := setField name v p.extra }) := by
  by_cases hn : name ∈ fieldNames
  · simp only [fieldNames, List.mem_cons, List.not_mem_nil, or_false] at hn
    rcases hn with rfl | rfl | rfl
    · obtain ⟨t, _, rfl⟩ := except_map_eq_ok.mp h
      exact .inl ⟨rfl, t, rfl⟩
    · obtain ⟨ts, _, rfl⟩ := except_map_eq_ok.mp h
      exact .inr (.inl ⟨rfl, ts, rfl⟩)
    · obtain ⟨r, hr, rfl⟩ := except_map_eq_ok.mp h
      obtain ⟨_, v, hv, rfl⟩ := Node.once_eq_ok.mp hr
      exact .inr (.inr (.inl ⟨rfl, v, hv, rfl⟩))
  · rw [readField_unknown hn] at h
    obtain ⟨v, hv, rfl⟩ := except_map_eq_ok.mp h
    exact .inr (.inr (.inr ⟨hn, v, hv, rfl⟩))

theorem forall_mem_setField {p : String × Json → Prop} {name : String} {v : Json} {fs : Fields}
    (hv : p (name, v)) (h : ∀ f ∈ fs, p f) : ∀ f ∈ setField name v fs, p f := by
  intro f hf
  rcases mem_setField hf with rfl | hf
  · exact hv
  · exact h f hf

theorem fits_readField {p q : Partial} {name : String} {x : Node} (hp : p.Fits)
    (h : readField p name x = .ok q) : q.Fits := by
  obtain ⟨_, t, rfl⟩ | ⟨_, ts, rfl⟩ | ⟨_, v, hv, rfl⟩ | ⟨hn, v, hv, rfl⟩ := readField_eq_ok h
  · exact ⟨hp.publicInput, hp.sorted, hp.unknown, hp.extra⟩
  · exact ⟨hp.publicInput, hp.sorted, hp.unknown, hp.extra⟩
  · refine ⟨?_, hp.sorted, hp.unknown, hp.extra⟩
    intro w hw
    exact Option.some.inj hw ▸ Node.ordered_of_value hv
  · exact ⟨hp.publicInput, hp.sorted.setField, forall_mem_setField hn hp.unknown,
      forall_mem_setField (Node.ordered_of_value hv) hp.extra⟩

/-- Nothing is read yet. -/
def Partial.start : Partial := ⟨none, none, none, []⟩

theorem fits_start : Partial.start.Fits := ⟨by simp [Partial.start], sorted_nil,
  by simp [Partial.start], by simp [Partial.start]⟩

theorem finish_eq_ok {p : Partial} {a : Artifact} (h : finish p = .ok a) :
    p.proofHex = some a.proofHex ∧ a.annotations = p.annotations.getD [] ∧
      p.publicInput = some a.publicInput ∧ a.extra = p.extra := by
  obtain ⟨proof, annotations, publicInput, extra⟩ := p
  cases proof with
  | none => simp [finish, Node.required, bind, Except.bind] at h
  | some t =>
    cases publicInput with
    | none => simp [finish, Node.required, bind, Except.bind] at h
    | some v =>
      simp only [finish, Node.required, bind, Except.bind, Except.ok.injEq] at h
      subst h
      exact ⟨rfl, rfl, rfl, rfl⟩

/-- What is loaded is an object read field by field. -/
theorem load_eq_ok {path : String} {content : Option ByteArray} {a : Artifact}
    (h : load path content = .ok a) : ∃ text fields p, content = some text.toUTF8 ∧
      nodeOf text = .object fields none ∧ Node.foldFields readField .start fields = .ok p ∧
      finish p = .ok a ∧ ProofHex.isWellFormed a.proofHex = true := by
  unfold load at h
  cases hj : TextFile.readJson ofNode path content with
  | error e => simp [hj] at h
  | ok b =>
    simp only [hj] at h
    split at h
    next hw =>
      obtain rfl := Except.ok.inj h
      obtain ⟨text, ht, hx⟩ := TextFile.readJson_eq_ok hj
      unfold ofNode at hx
      cases hp : (nodeOf text).expectObject readField ⟨none, none, none, []⟩ with
      | error f => simp [hp] at hx
      | ok p =>
        simp only [hp] at hx
        obtain ⟨fields, hfields, hfold⟩ := Node.expectObject_eq_ok hp
        exact ⟨text, fields, p, ht, hfields, hfold, hx, hw⟩
    next => simp at h

theorem loaded_of_load {path : String} {content : Option ByteArray} {a : Artifact}
    (h : load path content = .ok a) : a.Loaded := by
  obtain ⟨_, _, p, _, _, hfold, hfinish, hw⟩ := load_eq_ok h
  have hf := Node.foldFields_invariant (fun b name x c _ hb hc => fits_readField hb hc)
    fits_start hfold
  obtain ⟨_, _, hv, he⟩ := finish_eq_ok hfinish
  exact ⟨hw, hf.publicInput _ hv, he ▸ hf.sorted, he ▸ hf.unknown, he ▸ hf.extra⟩

/-- Unknown fields, read one after the other. -/
theorem foldFields_extra {p : Partial} {fs : Fields} (hn : ∀ f ∈ fs, f.1 ∉ fieldNames)
    (hi : ∀ f ∈ fs, Inside f.2) :
    Node.foldFields readField p (Node.ofFieldList fs) =
      .ok { p with extra := fs.foldl (fun fs f => setField f.1 f.2 fs) p.extra } := by
  induction fs generalizing p with
  | nil => rfl
  | cons f fs ih =>
    have hv := Node.value_ofJson (hi f List.mem_cons_self).1 (hi f List.mem_cons_self).2
    have hf := readField_unknown (hn f List.mem_cons_self) p (Node.ofJson f.2)
    rw [hv] at hf
    simp only [Node.ofFieldList, Node.foldFields, hf, Except.map]
    exact ih (fun g hg => hn g (List.mem_cons_of_mem f hg))
      fun g hg => hi g (List.mem_cons_of_mem f hg)

theorem integral_toJson {a : Artifact} (h : a.Integral) : Json.Integral a.toJson := by
  refine .object ?_
  intro f hf
  rcases List.mem_cons.mp hf with rfl | hf
  · exact .string _
  · rcases List.mem_cons.mp hf with rfl | hf
    · exact integral_strings _
    · rcases List.mem_cons.mp hf with rfl | hf
      · exact h.publicInput
      · exact h.extra f hf

theorem ofNode_toJson {a : Artifact} (h : a.Loaded) : ofNode (Node.ofJson a.toJson) = .ok a := by
  have hv := Node.value_ofJson h.publicInput.1 h.publicInput.2
  have he := foldFields_extra (p := ⟨some a.proofHex, some a.annotations, some a.publicInput, []⟩)
    h.unknown h.extra
  rw [← sortFields, sortFields_of_sorted h.sorted] at he
  simp only [ofNode, toJson, Node.ofJson, Node.expectObject, Node.ofFieldList, Node.foldFields,
    readField, Node.once, Node.expectString, Node.expectList_strings, hv, Except.map, he,
    Node.endOf, finish, Node.required]
  rfl

/-- A loaded artifact that is saved loads as itself. -/
theorem load_save {a : Artifact} (h : a.Loaded) (hi : a.Integral) (path : String) :
    load path (some a.save.toUTF8) = .ok a := by
  have hj := TextFile.readJson_pretty (integral_toJson hi) ofNode path
  rw [ofNode_toJson h] at hj
  rw [load, save, hj]
  simp [h.proof]

/-- The part of `Integral` that holds while the fields are read. -/
structure Partial.Integral (p : Partial) : Prop where
  publicInput : ∀ v, p.publicInput = some v → Json.Integral v
  extra : ∀ f ∈ p.extra, Json.Integral f.2

theorem integral_readField {p q : Partial} {name : String} {x : Node} (hx : x.Integral)
    (hp : p.Integral) (h : readField p name x = .ok q) : q.Integral := by
  obtain ⟨_, t, rfl⟩ | ⟨_, ts, rfl⟩ | ⟨_, v, hv, rfl⟩ | ⟨_, v, hv, rfl⟩ := readField_eq_ok h
  · exact ⟨hp.publicInput, hp.extra⟩
  · exact ⟨hp.publicInput, hp.extra⟩
  · refine ⟨?_, hp.extra⟩
    intro w hw
    exact Option.some.inj hw ▸ Node.integral_of_value hx hv
  · exact ⟨hp.publicInput, forall_mem_setField (Node.integral_of_value hx hv) hp.extra⟩

theorem annotations_readField {p q : Partial} {name : String} {x : Node}
    (hn : name ≠ "annotations") (hp : p.annotations = none) (h : readField p name x = .ok q) :
    q.annotations = none := by
  obtain ⟨_, t, rfl⟩ | ⟨hname, _⟩ | ⟨_, v, _, rfl⟩ | ⟨_, v, _, rfl⟩ := readField_eq_ok h
  · exact hp
  · exact absurd hname hn
  · exact hp
  · exact hp

/-- Names at the top of a text, none when it holds no object. -/
def topNames (text : String) : List (Except JsonFault String) :=
  match nodeOf text with
  | .object fields _ => fields.map Prod.fst
  | _ => []

theorem load_text_eq_ok {path text : String} {a : Artifact}
    (h : load path (some text.toUTF8) = .ok a) : ∃ fields p, nodeOf text = .object fields none ∧
      Node.foldFields readField .start fields = .ok p ∧ finish p = .ok a := by
  obtain ⟨_, fields, p, ht, hfields, hfold, hfinish, _⟩ := load_eq_ok h
  obtain rfl := String.toByteArray_inj.mp (Option.some.inj ht)
  exact ⟨fields, p, hfields, hfold, hfinish⟩

/-- Integers in the text are integers in the artifact. -/
theorem integral_of_load {path text : String} {a : Artifact} (hn : (nodeOf text).Integral)
    (h : load path (some text.toUTF8) = .ok a) : a.Integral := by
  obtain ⟨fields, p, hfields, hfold, hfinish⟩ := load_text_eq_ok h
  obtain ⟨_, _, hv, he⟩ := finish_eq_ok hfinish
  rw [hfields] at hn
  cases hn with
  | object _ hall =>
    have hp : p.Integral := Node.foldFields_invariant
      (fun b name x c hx hb hc => integral_readField (hall _ hx) hb hc)
      ⟨by simp [Partial.start], by simp [Partial.start]⟩ hfold
    exact ⟨hp.publicInput _ hv, he ▸ hp.extra⟩

/-- Annotations that are not in the text are read as none. -/
theorem annotations_of_load {path text : String} {a : Artifact}
    (hn : .ok "annotations" ∉ topNames text) (h : load path (some text.toUTF8) = .ok a) :
    a.annotations = [] := by
  obtain ⟨fields, p, hfields, hfold, hfinish⟩ := load_text_eq_ok h
  obtain ⟨_, hannotations, _, _⟩ := finish_eq_ok hfinish
  simp only [topNames, hfields] at hn
  have hp : p.annotations = none := by
    -- No step of the fold is for that name, and no other step sets the annotations.
    refine Node.foldFields_invariant (p := fun q => q.annotations = none) ?_ rfl hfold
    intro b name x c hx hb hc
    refine annotations_readField ?_ hb hc
    rintro rfl
    exact hn (List.mem_map_of_mem hx)
  rw [hannotations, hp]
  rfl

theorem names_save {a : Artifact} (hi : a.Integral) :
    topNames a.save = (fieldNames ++ a.extra.map Prod.fst).map .ok := by
  rw [topNames, save, nodeOf_pretty (integral_toJson hi)]
  exact Node.names_ofFieldList _

theorem nodup_names {a : Artifact} (h : a.Loaded) :
    (fieldNames ++ a.extra.map Prod.fst).Nodup := by
  refine List.nodup_append.mpr ⟨by decide, h.sorted.nodup, ?_⟩
  rintro name hname _ hf rfl
  obtain ⟨f, hmem, rfl⟩ := List.mem_map.mp hf
  exact h.unknown f hmem hname

/-- Whatever text an artifact was loaded from, it is saved without a repeated name, loads as
itself and is saved again in the same bytes. -/
theorem load_save_of_text {path text : String} {a : Artifact} (hn : (nodeOf text).Integral)
    (h : load path (some text.toUTF8) = .ok a) :
    (∀ copy, load copy (some a.save.toUTF8) = .ok a) ∧
    (∀ copy b, load copy (some a.save.toUTF8) = .ok b → b.save.toUTF8 = a.save.toUTF8) ∧
    (.ok "annotations" ∉ topNames text → a.annotations = []) ∧
    (∀ f ∈ a.extra, f.1 ∉ fieldNames) ∧
    (topNames a.save).Nodup := by
  have hl := loaded_of_load h
  have hi := integral_of_load hn h
  have hback := load_save hl hi
  refine ⟨hback, ?_, fun hnone => annotations_of_load hnone h, hl.unknown, ?_⟩
  · intro copy b hb
    rw [Except.ok.inj ((hback copy).symm.trans hb)]
  · rw [names_save hi]
    exact (nodup_names hl).map fun _ _ => Except.ok.inj

/-- A file without annotations, with a null public input and a further field that stands twice. -/
def sampleFile : Json :=
  .object [("note", .integer 1), ("public_input", .null), ("proof_hex", .string "0x0f"),
    ("note", .array [.integer (-2), .string "\"\n"])]

/-- What is loaded from it. -/
def sampleLoaded : Artifact :=
  ⟨"0x0f", [], .null, [("note", .array [.integer (-2), .string "\"\n"])]⟩

theorem integral_sampleFile : Json.Integral sampleFile := by
  have hone : Json.Integral (.integer 1) := .integer (by decide) (by decide)
  have htwo : Json.Integral (.integer (-2)) := .integer (by decide) (by decide)
  have hlist : Json.Integral (.array [.integer (-2), .string "\"\n"]) := by
    refine .array ?_
    simp [htwo, Json.Integral.string]
  refine .object ?_
  simp [hone, hlist, Json.Integral.null, Json.Integral.string]

theorem load_save_of_text_sample :
    (nodeOf sampleFile.compact).Integral ∧
    load "proof" (some sampleFile.compact.toUTF8) = .ok sampleLoaded ∧
    load "copy" (some sampleLoaded.save.toUTF8) = .ok sampleLoaded := by
  have hn : (nodeOf sampleFile.compact).Integral :=
    nodeOf_compact integral_sampleFile ▸ Node.integral_ofJson integral_sampleFile
  have hload : load "proof" (some sampleFile.compact.toUTF8) = .ok sampleLoaded := by
    simp only [load, TextFile.readJson, TextFile.readText_toUTF8,
      decodeText_compact integral_sampleFile]
    rfl
  exact ⟨hn, hload, (load_save_of_text hn hload).1 "copy"⟩

end Artifact
end ProofTrial
