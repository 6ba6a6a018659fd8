import ProofTrial.Json.Basic
import Mathlib.Data.List.Basic
import Mathlib.Tactic

/-! The fields of an object as a finite map. Fields whose names increase are determined by what
each name looks up, and setting fields one after the other gives such fields. -/
namespace ProofTrial.Json

/-- Names increase strictly, so none stands twice. -/
def Sorted (fs : Fields) : Prop := fs.Pairwise fun f g => f.1 < g.1

theorem sorted_nil : Sorted [] := List.Pairwise.nil

theorem sorted_cons {f : String × Json} {fs : Fields} :
    Sorted (f :: fs) ↔ (∀ g ∈ fs, f.1 < g.1) ∧ Sorted fs := List.pairwise_cons

theorem sorted_singleton (f : String × Json) : Sorted [f] := List.pairwise_singleton _ f

theorem sorted_of_names {fs : Fields} (names : List String) (hn : fs.map Prod.fst = names)
    (h : names.Pairwise (· < ·)) : Sorted fs := by
  rw [← hn] at h
  exact List.pairwise_map.mp h

theorem Sorted.nodup {fs : Fields} (h : Sorted fs) : (fs.map Prod.fst).Nodup := by
  rw [List.Nodup, List.pairwise_map]
  exact h.imp String.ne_of_lt

theorem lookup_cons (n : String) (f : String × Json) (fs : Fields) :
    List.lookup n (f :: fs) = if n = f.1 then some f.2 else List.lookup n fs := by
  obtain ⟨m, v⟩ := f
  by_cases h : n = m
  · simp [h]
  · rw [List.lookup_cons, beq_eq_false_iff_ne.mpr h, if_neg h]

theorem lookup_eq_none_of_forall {n : String} {fs : Fields} (h : ∀ f ∈ fs, n ≠ f.1) :
    fs.lookup n = none := by
  induction fs with
  | nil => rfl
  | cons f fs ih =>
    rw [lookup_cons, if_neg (h f List.mem_cons_self)]
    exact ih fun g hg => h g (List.mem_cons_of_mem f hg)

theorem mem_of_lookup {n : String} {v : Json} {fs : Fields} (h : fs.lookup n = some v) :
    (n, v) ∈ fs := by
  induction fs with
  | nil => simp at h
  | cons f fs ih =>
    rw [lookup_cons] at h
    split at h
    next hn =>
      obtain rfl := Option.some.inj h
      rw [hn]
      exact List.mem_cons_self
    next => exact List.mem_cons_of_mem f (ih h)

theorem lookup_of_mem {f : String × Json} {fs : Fields} (hs : (fs.map Prod.fst).Nodup)
    (h : f ∈ fs) : fs.lookup f.1 = some f.2 := by
  induction fs with
  | nil => simp at h
  | cons g fs ih =>
    obtain ⟨hg, hs⟩ := List.nodup_cons.mp hs
    rw [lookup_cons]
    rcases List.mem_cons.mp h with rfl | h
    · exact if_pos rfl
    · have hne : f.1 ≠ g.1 := by
        intro he
        exact hg (he ▸ List.mem_map_of_mem h)
      rw [if_neg hne, ih hs h]

/-- A name is there exactly when it looks up a value. -/
theorem isSome_lookup {n : String} {fs : Fields} :
    (fs.lookup n).isSome ↔ n ∈ fs.map Prod.fst := by
  induction fs with
  | nil => simp
  | cons f fs ih =>
    rw [lookup_cons, List.map_cons, List.mem_cons, ← ih]
    by_cases h : n = f.1 <;> simp [h]

/-- Sorted fields are determined by their lookups. -/
theorem Sorted.ext {fs gs : Fields} (hf : Sorted fs) (hg : Sorted gs)
    (h : ∀ n, fs.lookup n = gs.lookup n) : fs = gs := by
  have hp : fs.Perm gs := by
    apply (List.perm_ext_iff_of_nodup (List.Nodup.of_map _ hf.nodup)
      (List.Nodup.of_map _ hg.nodup)).mpr
    intro f
    constructor
    · intro hm
      exact mem_of_lookup (h f.1 ▸ lookup_of_mem hf.nodup hm)
    · intro hm
      exact mem_of_lookup ((h f.1).symm ▸ lookup_of_mem hg.nodup hm)
  exact hp.eq_of_pairwise (fun a b _ _ hab hba => absurd hba (String.lt_asymm hab)) hf hg

theorem setField_nil (name : String) (v : Json) : setField name v [] = [(name, v)] := rfl

theorem setField_before {name n : String} (h : name < n) (v w : Json) (fs : Fields) :
    setField name v ((n, w) :: fs) = (name, v) :: (n, w) :: fs := if_pos h

theorem setField_after {name n : String} (h : n < name) (v w : Json) (fs : Fields) :
    setField name v ((n, w) :: fs) = (n, w) :: setField name v fs := by
  rw [setField, if_neg (String.lt_asymm h), if_neg (String.ne_of_lt h).symm]

theorem mem_setField {name : String} {v : Json} {f : String × Json} {fs : Fields}
    (h : f ∈ setField name v fs) : f = (name, v) ∨ f ∈ fs := by
  induction fs with
  | nil => simpa [setField] using h
  | cons g fs ih =>
    rw [setField] at h
    split_ifs at h with hlt he
    · exact List.mem_cons.mp h
    · rcases List.mem_cons.mp h with h | h
      · exact .inl h
      · exact .inr (List.mem_cons_of_mem g h)
    · rcases List.mem_cons.mp h with h | h
      · exact .inr (h ▸ List.mem_cons_self)
      · exact (ih h).imp_right (List.mem_cons_of_mem g)

theorem lookup_setField (n name : String) (v : Json) (fs : Fields) :
    (setField name v fs).lookup n = if n = name then some v else fs.lookup n := by
  induction fs with
  | nil => exact lookup_cons n (name, v) []
  | cons f fs ih =>
    rw [setField]
    split
    next => exact lookup_cons n (name, v) (f :: fs)
    next =>
      split
      next he => rw [lookup_cons, lookup_cons, ← he]; split <;> rfl
      next he =>
        rw [lookup_cons, lookup_cons, ih]
        by_cases hn : n = name
        · rw [if_neg fun h => he (hn.symm.trans h), if_pos hn, if_pos hn]
        · rw [if_neg hn, if_neg hn]

theorem Sorted.setField {name : String} {v : Json} {fs : Fields} (h : Sorted fs) :
    Sorted (Json.setField name v fs) := by
  induction fs with
  | nil => exact List.pairwise_singleton _ _
  | cons f fs ih =>
    obtain ⟨hf, hs⟩ := sorted_cons.mp h
    rw [Json.setField]
    split_ifs with hlt he
    · refine sorted_cons.mpr ⟨?_, h⟩
      intro g hg
      rcases List.mem_cons.mp hg with rfl | hg
      · exact hlt
      · exact String.lt_trans hlt (hf g hg)
    · exact sorted_cons.mpr ⟨fun g hg => he ▸ hf g hg, hs⟩
    · have hgt : f.1 < name := by
        rcases String.le_total name f.1 with hle | hle
        · exact absurd (String.le_antisymm hle (String.not_lt.mp hlt)) he
        · exact String.not_le.mp fun hle' => he (String.le_antisymm hle' hle)
      refine sorted_cons.mpr ⟨?_, ih hs⟩
      intro g hg
      rcases mem_setField hg with rfl | hg
      · exact hgt
      · exact hf g hg

/-- The fields of `ofFields`. -/
def sortFields (fs : Fields) : Fields := fs.foldl (fun fs f => setField f.1 f.2 fs) []

theorem ofFields_eq (fs : Fields) : ofFields fs = .object (sortFields fs) := rfl

private theorem sorted_foldl {fs gs : Fields} (h : Sorted gs) :
    Sorted (fs.foldl (fun fs f => setField f.1 f.2 fs) gs) := by
  induction fs generalizing gs with
  | nil => exact h
  | cons f fs ih => exact ih h.setField

theorem sorted_sortFields (fs : Fields) : Sorted (sortFields fs) := sorted_foldl sorted_nil

private theorem mem_foldl {f : String × Json} {fs gs : Fields}
    (h : f ∈ fs.foldl (fun fs f => setField f.1 f.2 fs) gs) : f ∈ fs ∨ f ∈ gs := by
  induction fs generalizing gs with
  | nil => exact .inr h
  | cons g fs ih =>
    rcases ih h with h | h
    · exact .inl (List.mem_cons_of_mem g h)
    · rcases mem_setField h with rfl | h
      · exact .inl List.mem_cons_self
      · exact .inr h

theorem mem_sortFields {f : String × Json} {fs : Fields} (h : f ∈ sortFields fs) : f ∈ fs :=
  (mem_foldl h).resolve_right List.not_mem_nil

private theorem lookup_foldl (n : String) {fs gs : Fields} (h : (fs.map Prod.fst).Nodup) :
    (fs.foldl (fun fs f => setField f.1 f.2 fs) gs).lookup n =
      (fs.lookup n).or (gs.lookup n) := by
  induction fs generalizing gs with
  | nil => simp
  | cons f fs ih =>
    obtain ⟨hf, hs⟩ := List.nodup_cons.mp h
    rw [List.foldl_cons, ih hs, lookup_setField, lookup_cons]
    by_cases hn : n = f.1
    · have hnone : fs.lookup n = none := by
        apply lookup_eq_none_of_forall
        rintro g hg rfl
        exact hf (hn ▸ List.mem_map_of_mem hg)
      simp [hn, hn ▸ hnone]
    · simp [hn]

/-- Sorting moves fields of different names and changes none of them. -/
theorem lookup_sortFields (n : String) {fs : Fields} (h : (fs.map Prod.fst).Nodup) :
    (sortFields fs).lookup n = fs.lookup n := by
  rw [sortFields, lookup_foldl n h]
  simp

theorem sortFields_of_sorted {fs : Fields} (h : Sorted fs) : sortFields fs = fs :=
  (sorted_sortFields fs).ext h fun n => lookup_sortFields n h.nodup

theorem lookup_filter (p : String → Bool) (n : String) (fs : Fields) :
    (fs.filter fun f => p f.1).lookup n = if p n then fs.lookup n else none := by
  induction fs with
  | nil => simp
  | cons f fs ih =>
    rw [List.filter_cons, lookup_cons]
    by_cases hf : p f.1 = true
    · rw [if_pos hf, lookup_cons, ih]
      by_cases hn : n = f.1
      · simp [hn, hf]
      · simp [hn]
    · rw [if_neg hf, ih]
      by_cases hn : n = f.1
      · simp [hn, hf]
      · simp [hn]

theorem setField_of_lookup {n : String} {v : Json} {fs : Fields} (hs : Sorted fs)
    (h : fs.lookup n = some v) : setField n v fs = fs := by
  apply hs.setField.ext hs
  intro m
  rw [lookup_setField]
  split_ifs with hm
  · rw [hm, h]
  · rfl

theorem setField_comm {m n : String} (h : m ≠ n) (v w : Json) {fs : Fields} (hs : Sorted fs) :
    setField m v (setField n w fs) = setField n w (setField m v fs) := by
  apply hs.setField.setField.ext hs.setField.setField
  intro k
  simp only [lookup_setField]
  by_cases hm : k = m
  · have hn : k ≠ n := fun hn => h (hm.symm.trans hn)
    rw [if_pos hm, if_neg hn, if_pos hm]
  · rw [if_neg hm, if_neg hm]

/-- Setting a field that is there changes no names. -/
theorem names_setField {n : String} {v w : Json} {fs : Fields} (h : fs.lookup n = some v) :
    Sorted fs → (setField n w fs).map Prod.fst = fs.map Prod.fst := by
  induction fs with
  | nil => simp at h
  | cons f fs ih =>
    intro hs
    obtain ⟨hf, hs⟩ := sorted_cons.mp hs
    rw [setField]
    split
    next hlt =>
      have hn : n ∈ (f :: fs).map Prod.fst := isSome_lookup.mp (by simp [h])
      rcases List.mem_cons.mp hn with rfl | hn
      · exact absurd hlt (String.lt_irrefl _)
      · obtain ⟨g, hg, rfl⟩ := List.mem_map.mp hn
        exact absurd hlt (String.lt_asymm (hf g hg))
    next =>
      split
      next he => simp [he]
      next he =>
        rw [lookup_cons, if_neg he] at h
        simp [ih h hs]

/-- Two fields and all others of different names, in order: the two fields set. -/
theorem sortFields_two {m n : String} (h : m ≠ n) (v w : Json) {fs : Fields} (hs : Sorted fs) :
    sortFields ((m, v) :: (n, w) :: fs.filter fun f => !([m, n].contains f.1)) =
      setField m v (setField n w fs) := by
  have hsub := (List.filter_sublist (p := fun f => !([m, n].contains f.1)) (l := fs)).map Prod.fst
  have hnot : ∀ k ∈ (fs.filter fun f => !([m, n].contains f.1)).map Prod.fst, k ≠ m ∧ k ≠ n := by
    intro k hk
    obtain ⟨f, hf, rfl⟩ := List.mem_map.mp hk
    simpa using (List.mem_filter.mp hf).2
  have hnodup : (((m, v) :: (n, w) ::
      fs.filter fun f => !([m, n].contains f.1)).map Prod.fst).Nodup := by
    simp only [List.map_cons]
    refine List.nodup_cons.mpr ⟨?_, List.nodup_cons.mpr ⟨?_, hs.nodup.sublist hsub⟩⟩
    · rintro (_ | ⟨_, hm⟩)
      · exact h rfl
      · exact (hnot m hm).1 rfl
    · intro hn
      exact (hnot n hn).2 rfl
  apply (sorted_sortFields _).ext hs.setField.setField
  intro k
  rw [lookup_sortFields k hnodup, lookup_cons, lookup_cons, lookup_setField, lookup_setField,
    lookup_filter fun k => !([m, n].contains k)]
  by_cases hm : k = m
  · simp [hm]
  · by_cases hn : k = n
    · simp [hn]
    · simp [hm, hn]

end ProofTrial.Json
