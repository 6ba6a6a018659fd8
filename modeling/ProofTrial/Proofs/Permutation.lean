import ProofTrial.Permutation.Basic
import ProofTrial.Proofs.ArtifactFile
import ProofTrial.Proofs.Field.Text
import ProofTrial.Proofs.Text.Utf8

/-! Permutations served by a program. It is asked with the words of the input, and what it gives is
settled by how it ended and by what it wrote: an output comes of a complete answer of four elements
alone, and everything else is a failure of one of four kinds. -/
namespace ProofTrial

namespace Permutation
open Json Json.Node

/-- A field of an answer that is not the output, and does no harm. -/
def PassedOver (f : Except JsonFault String × Node) : Prop :=
  (∃ name, f.1 = .ok name ∧ name ≠ "output") ∧ f.2.skip = .ok ()

/-- Answers with their words: an object with the output as one of its fields, or a list of the
output alone. -/
inductive Response : Node → List String → Prop where
  | object {before after : NodeFields} {words : List String}
      (others : ∀ f ∈ before ++ after, PassedOver f) :
      Response (.object (before ++ (.ok "output", ofJson (strings words)) :: after) none) words
  | list (words : List String) : Response (.array [ofJson (strings words)] none) words

/-- What was written is one answer with these words, and nothing after it. -/
def Answers (stdout : ByteArray) (words : List String) : Prop :=
  (Reader.document (Reader.symbols stdout)).trailing = false ∧
    Response (Reader.document (Reader.symbols stdout)).node words

theorem readResponseField_eq_ok {old new : Option (List String)} {name : String} {x : Node} :
    readResponseField old name x = .ok new ↔
      (name = "output" ∧ old = none ∧ ∃ words, x = ofJson (strings words) ∧ new = some words) ∨
      (PassedOver (.ok name, x) ∧ new = old) := by
  by_cases hn : name = "output"
  · subst hn
    have hover : ¬ PassedOver (.ok "output", x) := by
      rintro ⟨⟨_, h, hne⟩, _⟩
      exact hne (Except.ok.inj h).symm
    simp only [readResponseField, once_eq_ok, expectList_expectString_eq_ok, hover, true_and,
      false_and, or_false]
  · have hfield : readResponseField old name x = x.skip.map fun _ => old := by
      unfold readResponseField
      split <;> simp_all
    have hover : PassedOver (.ok name, x) ↔ x.skip = .ok () := by
      simp [PassedOver, hn]
    rw [hfield, except_map_eq_ok, hover]
    simp only [hn, false_and, false_or]
    constructor
    · rintro ⟨_, hskip, rfl⟩
      exact ⟨hskip, rfl⟩
    · rintro ⟨hskip, rfl⟩
      exact ⟨_, hskip, rfl⟩

/-- Once the output is read, all other fields are passed over. -/
theorem foldFields_some {words : List String} {new : Option (List String)} {fs : NodeFields} :
    foldFields readResponseField (some words) fs = .ok new ↔
      (∀ f ∈ fs, PassedOver f) ∧ new = some words := by
  induction fs with
  | nil => simp [foldFields, eq_comm]
  | cons f fs ih =>
    obtain ⟨label, x⟩ := f
    rw [foldFields_cons_eq_ok, List.forall_mem_cons]
    constructor
    · rintro ⟨name, mid, rfl, hstep, hrest⟩
      obtain ⟨_, h, _⟩ | ⟨hover, rfl⟩ := readResponseField_eq_ok.mp hstep
      · contradiction
      · obtain ⟨hall, rfl⟩ := ih.mp hrest
        exact ⟨⟨hover, hall⟩, rfl⟩
    · rintro ⟨⟨hover, hall⟩, rfl⟩
      obtain ⟨name, rfl, _⟩ := id hover.1
      exact ⟨name, _, rfl, readResponseField_eq_ok.mpr (.inr ⟨hover, rfl⟩), ih.mpr ⟨hall, rfl⟩⟩

/-- The output is read from one field, with all others passed over. -/
theorem foldFields_none {words : List String} {fs : NodeFields} :
    foldFields readResponseField none fs = .ok (some words) ↔
      ∃ before after, fs = before ++ (.ok "output", ofJson (strings words)) :: after ∧
        ∀ f ∈ before ++ after, PassedOver f := by
  induction fs with
  | nil => simp [foldFields]
  | cons f fs ih =>
    obtain ⟨label, x⟩ := f
    rw [foldFields_cons_eq_ok]
    constructor
    · rintro ⟨name, mid, rfl, hstep, hrest⟩
      obtain ⟨rfl, _, texts, hx, rfl⟩ | ⟨hover, rfl⟩ := readResponseField_eq_ok.mp hstep
      · obtain ⟨hall, hwords⟩ := foldFields_some.mp hrest
        obtain rfl := Option.some.inj hwords
        exact ⟨[], fs, congrArg (· :: fs) (Prod.ext rfl hx), hall⟩
      · obtain ⟨before, after, rfl, hall⟩ := ih.mp hrest
        exact ⟨_ :: before, after, rfl, List.forall_mem_cons.mpr ⟨hover, hall⟩⟩
    · rintro ⟨before, after, hfs, hall⟩
      cases before with
      | nil =>
        obtain ⟨hf, rfl⟩ := List.cons.inj hfs
        obtain ⟨rfl, rfl⟩ := Prod.mk.inj hf
        exact ⟨_, _, rfl, readResponseField_eq_ok.mpr (.inl ⟨rfl, rfl, words, rfl, rfl⟩),
          foldFields_some.mpr ⟨hall, rfl⟩⟩
      | cons g before =>
        obtain ⟨rfl, rfl⟩ := List.cons.inj hfs
        obtain ⟨hover, hrest⟩ := List.forall_mem_cons.mp hall
        obtain ⟨name, rfl, _⟩ := id hover.1
        exact ⟨name, none, rfl, readResponseField_eq_ok.mpr (.inr ⟨hover, rfl⟩),
          ih.mpr ⟨before, after, rfl, hrest⟩⟩

theorem expectRecord_array_eq_ok {items : List Node} {fault : Option Break} {words : List String} :
    expectRecord ["output"] readResponseField none required (.array items fault) = .ok words ↔
      items = [ofJson (strings words)] ∧ fault = none := by
  have hread : ∀ y, readResponseField none "output" y =
      (y.expectList expectString).map some := fun _ => rfl
  rcases items with _ | ⟨y, _ | ⟨z, rest⟩⟩
  · cases fault <;> simp [expectRecord, foldItems, endOf, required]
  · have hy : y.expectList expectString = .ok words ↔ y = ofJson (strings words) :=
      expectList_expectString_eq_ok
    cases hw : y.expectList expectString with
    | error f =>
      simp only [hw, reduceCtorEq, false_iff] at hy
      simp [expectRecord, foldItems, hread, hw, Except.map, hy]
    | ok texts =>
      rw [hw, Except.ok.injEq] at hy
      cases fault <;> simp [expectRecord, foldItems, hread, hw, Except.map, endOf, required, hy]
  · cases hw : y.expectList expectString <;>
      simp [expectRecord, foldItems, hread, hw, Except.map, required]

/-- What is read of an answer are its words. -/
theorem expectRecord_eq_ok {x : Node} {words : List String} :
    expectRecord ["output"] readResponseField none required x = .ok words ↔ Response x words := by
  constructor
  · intro h
    unfold expectRecord at h
    split at h
    next items fault =>
      obtain ⟨rfl, rfl⟩ := expectRecord_array_eq_ok.mp h
      exact .list words
    next =>
      cases ho : x.expectObject readResponseField none with
      | error f => simp [ho] at h
      | ok output =>
        simp only [ho, required_eq_ok] at h
        subst h
        obtain ⟨fields, rfl, hfold⟩ := expectObject_eq_ok ho
        obtain ⟨before, after, rfl, hall⟩ := foldFields_none.mp hfold
        exact .object hall
  · intro h
    cases h with
    | object hall =>
      have hfold : foldFields readResponseField none _ = .ok (some words) :=
        foldFields_none.mpr ⟨_, _, rfl, hall⟩
      simp only [expectRecord, expectObject, hfold, endOf, Except.map, required]
    | list => exact expectRecord_array_eq_ok.mpr ⟨rfl, rfl⟩

theorem readResponse_eq_ok {stdout : ByteArray} {words : List String} :
    readResponse stdout = .ok words ↔ Answers stdout words := by
  rw [readResponse, decodeBytes, decode_eq_ok, expectRecord_eq_ok]
  rfl

/-- Texts of an object with these words as its output, with any further fields and any blanks. -/
inductive Written (words : List String) : String → Prop where
  | mk {l : Layout} {before after : Fields} {lead trail : List Char} (layout : l.Blank)
      (integral : ∀ f ∈ before ++ after, Json.Integral f.2)
      (others : ∀ f ∈ before ++ after, f.1 ≠ "output")
      (lead_blank : ∀ c ∈ lead, Reader.isBlank (some c) = true)
      (trail_blank : ∀ c ∈ trail, Reader.isBlank (some c) = true) :
      Written words (String.ofList
        (lead ++ (l.chars 0 (.object (before ++ ("output", strings words) :: after)) ++ trail)))

theorem Written.answers {words : List String} {text : String} (h : Written words text) :
    Answers text.toUTF8 words := by
  obtain ⟨layout, integral, others, hlead, htrail⟩ := h
  rename_i l before after lead trail
  have hi : Json.Integral (.object (before ++ ("output", strings words) :: after)) := by
    refine .object fun f hf => ?_
    rcases List.mem_append.mp hf with hf | hf
    · exact integral f (List.mem_append_left after hf)
    · rcases List.mem_cons.mp hf with rfl | hf
      · exact integral_strings words
      · exact integral f (List.mem_append_right before hf)
  have hover : ∀ f ∈ ofFieldList before ++ ofFieldList after, PassedOver f := by
    rw [← ofFieldList_append]
    intro f hf
    obtain ⟨g, hg, rfl⟩ := mem_ofFieldList hf
    exact ⟨⟨g.1, rfl, others g hg⟩, skip_ofJson g.2⟩
  have hnode : ofJson (.object (before ++ ("output", strings words) :: after)) =
      .object (ofFieldList before ++ (.ok "output", ofJson (strings words)) :: ofFieldList after)
        none := by
    rw [ofJson, ofFieldList_append, ofFieldList]
  rw [Answers, Reader.symbols_toUTF8, String.toList_ofList,
    Layout.document_padded layout hi (by simp) hlead htrail, hnode]
  exact ⟨rfl, .object hover⟩

/-- What a call gives for what became of the program, with a failure by its kind. -/
inductive Yields : Launch ByteArray → Except String Row → Prop where
  | notStarted (reason : String) : Yields (.notStarted reason) (.error "external_process")
  | overdue : Yields .overdue (.error "timeout")
  | failed {e : Ended ByteArray} (code : e.code ≠ some 0) :
      Yields (.ended e) (.error "external_process")
  | unread {e : Ended ByteArray} (code : e.code = some 0)
      (noAnswer : ∀ words, ¬ Answers e.output words) : Yields (.ended e) (.error "json")
  | refused {e : Ended ByteArray} {words : List String} (code : e.code = some 0)
      (answer : Answers e.output words)
      (bad : words.length ≠ 4 ∨ ∃ t ∈ words, ∀ x, Felt.ofHex t ≠ .ok x) :
      Yields (.ended e) (.error "invalid_parameter")
  | answered {e : Ended ByteArray} {words : List String} {out : Row} (code : e.code = some 0)
      (answer : Answers e.output words)
      (elements : List.Forall₂ (fun t x => Felt.ofHex t = .ok x) words out.toList) :
      Yields (.ended e) (.ok out)

section Ended

variable (path : String) {e : Ended ByteArray} {words : List String}

theorem ofEnded_of_failed (code : e.code ≠ some 0) :
    ∃ fault, ofEnded path e = .error (.externalProgram path fault) := by
  have hs : e.success = false := beq_eq_false_iff_ne.mpr code
  exact ⟨_, by rw [ofEnded, hs]; rfl⟩

theorem ofEnded_of_unread (code : e.code = some 0) (h : ∀ words, ¬ Answers e.output words) :
    ∃ f, ofEnded path e = .error (.json "permutation response" f) := by
  have hs : e.success = true := beq_iff_eq.mpr code
  cases hr : readResponse e.output with
  | error f => exact ⟨f, by rw [ofEnded, if_pos hs, hr]⟩
  | ok words => exact absurd (readResponse_eq_ok.mp hr) (h words)

theorem ofEnded_of_answers (code : e.code = some 0) (h : Answers e.output words) :
    ofEnded path e = Row.ofHexWith .permutationOutputLength words := by
  have hs : e.success = true := beq_iff_eq.mpr code
  rw [ofEnded, if_pos hs, readResponse_eq_ok.mpr h]

/-- A program that ended yields what its output gives. -/
theorem yields_ofEnded (e : Ended ByteArray) :
    Yields (.ended e) ((ofEnded path e).mapError Error.kind) := by
  by_cases code : e.code = some 0
  · by_cases hread : ∃ words, Answers e.output words
    · obtain ⟨words, answer⟩ := hread
      rw [ofEnded_of_answers _ code answer]
      cases hrow : Row.ofHexWith .permutationOutputLength words with
      | ok out => exact .answered code answer (Row.ofHexWith_eq_ok.mp hrow)
      | error d =>
        obtain ⟨f, rfl⟩ := Row.ofHexWith_eq_error hrow
        exact .refused code answer (Row.exists_ofHexWith_eq_error_iff.mp ⟨f, hrow⟩)
    · rw [not_exists] at hread
      obtain ⟨f, hf⟩ := ofEnded_of_unread path code hread
      exact hf ▸ .unread code hread
  · obtain ⟨fault, hf⟩ := ofEnded_of_failed path code
    exact hf ▸ .failed code

end Ended

section Program

variable {program : Program String ByteArray} {limit : Timespan} {input : Vector Felt 8}

theorem yields_ofProgram :
    Yields (program.run (request input)) ((ofProgram program limit input).mapError Error.kind) := by
  unfold ofProgram Program.start
  cases program.run (request input) with
  | notStarted reason => exact .notStarted reason
  | overdue => exact .overdue
  | ended e => exact yields_ofEnded program.path e

theorem ofProgram_of_yields {r : Except String Row} (h : Yields (program.run (request input)) r) :
    (ofProgram program limit input).mapError Error.kind = r := by
  unfold ofProgram Program.start
  generalize program.run (request input) = launch at h ⊢
  cases h with
  | notStarted | overdue => rfl
  | failed code =>
    obtain ⟨fault, hf⟩ := ofEnded_of_failed program.path code
    exact congrArg (Except.mapError Error.kind) hf
  | unread code h =>
    obtain ⟨f, hf⟩ := ofEnded_of_unread program.path code h
    exact congrArg (Except.mapError Error.kind) hf
  | refused code answer bad =>
    obtain ⟨f, hf⟩ := Row.exists_ofHexWith_eq_error_iff.mpr bad
    exact congrArg (Except.mapError Error.kind) ((ofEnded_of_answers _ code answer).trans hf)
  | answered code answer elements =>
    exact congrArg (Except.mapError Error.kind)
      ((ofEnded_of_answers _ code answer).trans (Row.ofHexWith_eq_ok.mpr elements))

theorem ofProgram_eq_ok {out : Row} :
    ofProgram program limit input = .ok out ↔
      ∃ e words, program.run (request input) = .ended e ∧ e.code = some 0 ∧
        Answers e.output words ∧
        List.Forall₂ (fun t x => Felt.ofHex t = .ok x) words out.toList := by
  have hy := @yields_ofProgram program limit input
  constructor
  · intro h
    rw [h] at hy
    generalize program.run (request input) = launch at hy ⊢
    cases hy with
    | answered code answer elements => exact ⟨_, _, rfl, code, answer, elements⟩
  · rintro ⟨e, words, hrun, code, answer, elements⟩
    exact mapError_eq_ok.mp (ofProgram_of_yields (hrun ▸ .answered code answer elements))

end Program

/-- A program reads the words of the input. -/
theorem parse_request (input : Vector Felt 8) :
    Json.parse (request input) =
      .ok (.object [("input", strings (input.toList.map Felt.hex))]) :=
  (parse_object (by simp [plain_strings])).2

end Permutation
end ProofTrial
