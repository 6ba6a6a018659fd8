import ProofTrial.AnnotationLog
import Mathlib.Tactic

/-! Comparing logs. Two logs agree when they are the same bytes. Otherwise the line that is reported
comes after all those on which they agree, and there they differ or only one of them goes on. The
logs of annotations without line breaks agree only when the annotations do. -/
namespace ProofTrial.AnnotationLog

theorem compare_eq_ok {expected actual : String} :
    compare expected actual = .ok () ↔ actual = expected := by
  unfold compare
  split
  next h => simp [h]
  next h => simp [eq_comm, h]

/-- Lines are what stands between line breaks. -/
theorem lines_eq_splitOn (cs : List Char) : lines cs = cs.splitOn '\n' := by
  induction cs with
  | nil => rfl
  | cons c cs ih =>
    rw [List.splitOn_cons_eq_if_modifyHead, lines, ih]
    by_cases hc : c = '\n'
    · simp [hc]
    · obtain ⟨l, ls, hls⟩ := List.exists_cons_of_ne_nil (List.splitOn_ne_nil '\n' cs)
      simp [hc, hls]

theorem intercalate_lines (cs : List Char) : ['\n'].intercalate (lines cs) = cs := by
  rw [lines_eq_splitOn, List.intercalate_splitOn]

theorem lines_injective {cs ds : List Char} (h : lines cs = lines ds) : cs = ds := by
  rw [← intercalate_lines cs, h, intercalate_lines]

/-- The lists have the same first `k` pieces. At the next place the pieces differ, or only one of
the lists has a piece. -/
structure PartsAt (as bs : List (List Char)) (k : Nat) : Prop where
  agree : ∀ i < k, ∃ piece, as[i]? = some piece ∧ bs[i]? = some piece
  part : (∃ a b, as[k]? = some a ∧ bs[k]? = some b ∧ a ≠ b) ∨
    (k < as.length ∧ bs.length = k) ∨ (as.length = k ∧ k < bs.length)

theorem PartsAt.cons {as bs : List (List Char)} {k : Nat} (h : PartsAt as bs k)
    (piece : List Char) : PartsAt (piece :: as) (piece :: bs) (k + 1) where
  agree := by
    intro i hi
    cases i with
    | zero => exact ⟨piece, rfl, rfl⟩
    | succ i => exact h.agree i (Nat.lt_of_succ_lt_succ hi)
  part := by simpa using h.part

theorem partsAt_zero {as bs : List (List Char)} (h : as.head? ≠ bs.head?) : PartsAt as bs 0 where
  agree i hi := absurd hi (Nat.not_lt_zero i)
  part := by
    cases as with
    | nil =>
      cases bs with
      | nil => exact absurd rfl h
      | cons b bs => exact .inr (.inr ⟨rfl, Nat.zero_lt_succ _⟩)
    | cons a as =>
      cases bs with
      | nil => exact .inr (.inl ⟨Nat.zero_lt_succ _, rfl⟩)
      | cons b bs => exact .inl ⟨a, b, rfl, rfl, fun he => h (congrArg some he)⟩

/-- Counting ends where the lists part. They never run out together, for then they would be the
same. -/
theorem firstDifference_of_ne {as bs : List (List Char)} (h : as ≠ bs) (n : Nat) :
    ∃ k, firstDifference n as bs = n + k ∧ PartsAt as bs k := by
  induction as generalizing bs n with
  | nil =>
    obtain ⟨b, bs, rfl⟩ := List.exists_cons_of_ne_nil h.symm
    exact ⟨0, rfl, partsAt_zero (by simp)⟩
  | cons a as ih =>
    cases bs with
    | nil => exact ⟨0, rfl, partsAt_zero (by simp)⟩
    | cons b bs =>
      rw [firstDifference]
      split_ifs with hab
      · subst hab
        obtain ⟨k, hk, hparts⟩ := ih (fun he => h (congrArg (a :: ·) he)) (n + 1)
        exact ⟨k + 1, by omega, hparts.cons a⟩
      · exact ⟨0, rfl, partsAt_zero (by simpa using hab)⟩

theorem compare_of_ne {expected actual : String} (h : actual ≠ expected) :
    ∃ k, compare expected actual = .error (.annotationMismatch (k + 1)) ∧
      PartsAt (expected.toList.splitOn '\n') (actual.toList.splitOn '\n') k := by
  have hlines : lines expected.toList ≠ lines actual.toList :=
    fun he => h (String.toList_inj.mp (lines_injective he)).symm
  obtain ⟨k, hk, hparts⟩ := firstDifference_of_ne hlines 1
  refine ⟨k, ?_, ?_⟩
  · rw [compare, if_neg (Ne.symm h), hk, Nat.add_comm]
  · rwa [lines_eq_splitOn, lines_eq_splitOn] at hparts

/-- Annotations that a log keeps apart: at least one, and no line break in any. -/
structure Separable (annotations : List String) : Prop where
  nonempty : annotations ≠ []
  unbroken : ∀ text ∈ annotations, '\n' ∉ text.toList

theorem Separable.splitOn_intercalate {annotations : List String} (h : Separable annotations) :
    (String.intercalate "\n" annotations).toList.splitOn '\n' = annotations.map String.toList := by
  rw [String.toList_intercalate]
  refine List.splitOn_intercalate '\n' ?_ (by simpa using h.nonempty)
  intro cs hcs
  obtain ⟨text, ht, rfl⟩ := List.mem_map.mp hcs
  exact h.unbroken text ht

theorem ofList_inj {xs ys : List String} (hx : Separable xs) (hy : Separable ys) :
    ofList xs = ofList ys ↔ xs = ys := by
  refine ⟨fun h => ?_, congrArg ofList⟩
  have hjoined : (String.intercalate "\n" xs).toList = (String.intercalate "\n" ys).toList := by
    have hlogs := congrArg String.toList h
    rw [ofList, ofList, String.toList_append, String.toList_append] at hlogs
    exact List.append_cancel_right hlogs
  have hmap : xs.map String.toList = ys.map String.toList := by
    rw [← hx.splitOn_intercalate, hjoined, hy.splitOn_intercalate]
  exact List.map_injective_iff.mpr (fun _ _ => String.toList_inj.mp) hmap

-- The log of no annotations is the log of an empty one.
example : ofList [] = ofList [""] := by decide

/-- Logs are accepted when they are the same bytes, and otherwise refused with the number of the
line after all those they have in common. Of annotations that a log keeps apart only the same ones
have the same log. -/
theorem compare_finds_first_difference :
    (∀ expected actual : String,
      (compare expected actual = .ok () ↔ actual.toUTF8 = expected.toUTF8) ∧
      (actual.toUTF8 ≠ expected.toUTF8 →
        ∃ k, compare expected actual = .error (.annotationMismatch (k + 1)) ∧
          PartsAt (expected.toList.splitOn '\n') (actual.toList.splitOn '\n') k)) ∧
    ∀ xs ys : List String, Separable xs → Separable ys →
      (compare (ofList xs) (ofList ys) = .ok () ↔ xs = ys) := by
  refine ⟨fun expected actual => ⟨?_, fun h => ?_⟩, fun xs ys hx hy => ?_⟩
  · rw [compare_eq_ok, String.toUTF8_eq_toByteArray, String.toUTF8_eq_toByteArray,
      String.toByteArray_inj]
  · exact compare_of_ne fun he => h (congrArg String.toUTF8 he)
  · rw [compare_eq_ok, ofList_inj hy hx, eq_comm]

end ProofTrial.AnnotationLog
