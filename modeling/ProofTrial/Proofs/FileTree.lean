import ProofTrial.FileTree
import Mathlib.Tactic

/-! Files that are written. A file is read as it was last written, writing it keeps the way to every
other one, and what is joined to the path of a directory leads to a name below it. -/
namespace ProofTrial

namespace Path

theorem endsInSlash_iff {path : String} : endsInSlash path = true ↔ ['/'] <:+ path.toList := by
  rw [endsInSlash, ← String.endsWith_toSlice, String.Slice.endsWith_string_iff]
  simp

theorem isAbsolute_iff {path : String} : isAbsolute path = true ↔ ['/'] <+: path.toList := by
  rw [isAbsolute, String.startsWith_string_iff]
  simp

/-- The name of a file. -/
structure IsName (file : String) : Prop where
  nonempty : file ≠ ""
  noSlash : '/' ∉ file.toList
  notHere : file ≠ "."
  notAbove : file ≠ ".."

theorem names_of_isName {file : String} (h : IsName file) : names file = [file] := by
  rw [names, List.splitOn_eq_singleton h.noSlash]
  simp [h.nonempty]

/-- A slash parts the names on its two sides. -/
theorem names_slash {path front : String} {rest : List Char}
    (h : path.toList = front.toList ++ '/' :: rest) :
    names path = names front ++ names (String.ofList rest) := by
  rw [names, h, List.splitOn_append_cons_self, List.map_append, List.filter_append, names, names,
    String.toList_ofList]

theorem join_of_isName {base file : String} (hb : base ≠ "") (h : IsName file) :
    join base file = if base.endsWith "/" then base ++ file else base ++ "/" ++ file := by
  have habs : ¬ file.startsWith "/" = true := by
    rw [String.startsWith_string_iff]
    exact fun hp => h.noSlash (hp.subset (by simp))
  rw [join, if_neg (not_or.mpr ⟨hb, habs⟩)]

theorem names_join {base file : String} (hb : base ≠ "") (h : IsName file) :
    names (join base file) = names base ++ [file] := by
  rw [join_of_isName hb h, ← names_of_isName h]
  split_ifs with hs
  · obtain ⟨cs, hcs⟩ := endsInSlash_iff.mp hs
    have hbase : base.toList = (String.ofList cs).toList ++ '/' :: [] := by
      rw [String.toList_ofList, hcs]
    have hjoin : (base ++ file).toList = (String.ofList cs).toList ++ '/' :: file.toList := by
      rw [String.toList_append, hbase, List.append_assoc, List.singleton_append]
    rw [names_slash hjoin, names_slash hbase, String.ofList_toList]
    simp [names]
  · have hjoin : (base ++ "/" ++ file).toList = base.toList ++ '/' :: file.toList := by
      simp [String.toList_append]
    rw [names_slash hjoin, String.ofList_toList]

theorem isAbsolute_join {base file : String} (hb : base ≠ "") (h : IsName file) :
    isAbsolute (join base file) = isAbsolute base := by
  obtain ⟨c, cs, hbase⟩ : ∃ c cs, base.toList = c :: cs :=
    List.exists_cons_of_ne_nil fun hn => hb (String.toList_eq_nil_iff.mp hn)
  obtain ⟨rest, hjoin⟩ : ∃ rest, (join base file).toList = c :: rest := by
    rw [join_of_isName hb h]
    split_ifs <;> simp [String.toList_append, hbase]
  rw [Bool.eq_iff_iff, isAbsolute_iff, isAbsolute_iff, hbase, hjoin]
  simp

theorem endsInSlash_join {base file : String} (hb : base ≠ "") (h : IsName file) :
    endsInSlash (join base file) = false := by
  have hne : file.toList ≠ [] := fun hn => h.nonempty (String.toList_eq_nil_iff.mp hn)
  obtain ⟨cs, c, hfile⟩ : ∃ cs c, file.toList = cs ++ [c] :=
    ⟨_, _, (List.dropLast_append_getLast hne).symm⟩
  obtain ⟨front, hjoin⟩ : ∃ front, (join base file).toList = front ++ [c] := by
    rw [join_of_isName hb h]
    split_ifs <;> simp [String.toList_append, hfile, ← List.append_assoc]
  have hc : c ≠ '/' := by
    rintro rfl
    exact h.noSlash (by simp [hfile])
  rw [← Bool.not_eq_true, endsInSlash_iff, hjoin]
  rintro ⟨pre, hpre⟩
  exact hc (List.singleton_inj.mp (List.append_inj' hpre rfl).2).symm

end Path

namespace FileTree

variable {t : FileTree}

theorem isDirectory_iff {l : Location} :
    t.isDirectory l = true ↔ (∀ name ∈ l, name = "..") ∨ l = ["/"] ∨
      (∃ d ∈ t.directories, l <+: d) ∨ ∃ f ∈ t.files, l <+: f.1 ∧ f.1 ≠ l := by
  simp [isDirectory, or_assoc]

/-- What lies above a directory is one. -/
theorem isDirectory_above {l m : Location} (h : t.isDirectory l = true) (hm : m <+: l) :
    t.isDirectory m = true := by
  rw [isDirectory_iff] at h ⊢
  rcases h with h | rfl | ⟨d, hd, hl⟩ | ⟨f, hf, hl, hne⟩
  · exact .inl fun name hn => h name (hm.subset hn)
  · rcases List.prefix_cons_iff.mp hm with rfl | ⟨r, rfl, hr⟩
    · exact .inl (by simp)
    · exact .inr (.inl (by rw [List.prefix_nil.mp hr]))
  · exact .inr (.inr (.inl ⟨d, hd, hm.trans hl⟩))
  · refine .inr (.inr (.inr ⟨f, hf, hm.trans hl, ?_⟩))
    rintro rfl
    exact hne (hl.eq_of_length_le hm.length_le).symm

/-- Everything above a location is a directory. -/
def Sheltered (t : FileTree) (l : Location) : Prop :=
  ∀ m, m <+: l → m ≠ l → t.isDirectory m = true

theorem sheltered_of_isDirectory {l : Location} (h : t.isDirectory l = true) : t.Sheltered l :=
  fun _ hm _ => isDirectory_above h hm

theorem isDirectory_start (path : String) : t.isDirectory (Location.start path) = true := by
  rw [isDirectory_iff, Location.start]
  split_ifs
  · exact .inr (.inl rfl)
  · exact .inl (by simp)

theorem sheltered_step {l : Location} (h : t.isDirectory l = true) (name : String) :
    t.Sheltered (l.step name) := by
  have hbelow : t.Sheltered (l ++ [name]) := by
    intro m hm hne
    rcases List.prefix_concat_iff.mp hm with rfl | hm
    · exact absurd rfl hne
    · exact isDirectory_above h hm
  unfold Location.step
  split_ifs
  · exact sheltered_of_isDirectory h
  · exact sheltered_of_isDirectory h
  · exact hbelow
  · exact sheltered_of_isDirectory (isDirectory_above h (List.dropLast_prefix l))
  · exact hbelow

theorem follow_cons_eq_ok {l r : Location} {name : String} {names : List String} :
    t.follow l (name :: names) = .ok r ↔ t.isFile l = false ∧ t.isDirectory l = true ∧
      name.utf8ByteSize ≤ maxNameBytes ∧ t.follow (l.step name) names = .ok r := by
  rw [follow]
  split_ifs with hf hd hn
  · simp [hf]
  · simp_all
  · simp_all
  · simp_all

/-- A way leads over directories. -/
theorem sheltered_follow {l r : Location} {names : List String} (hl : t.Sheltered l)
    (h : t.follow l names = .ok r) : t.Sheltered r := by
  induction names generalizing l with
  | nil => exact Except.ok.inj h ▸ hl
  | cons name names ih =>
    obtain ⟨_, hd, _, hr⟩ := follow_cons_eq_ok.mp h
    exact ih (sheltered_step hd name) hr

theorem follow_append_eq_ok {l r : Location} {front rest : List String} :
    t.follow l (front ++ rest) = .ok r ↔
      ∃ m, t.follow l front = .ok m ∧ t.follow m rest = .ok r := by
  induction front generalizing l with
  | nil => simp [follow]
  | cons name front ih =>
    simp only [List.cons_append, follow_cons_eq_ok, ih]
    tauto

theorem reach_eq_ok {path : String} {l : Location} :
    t.reach path = .ok l ↔
      checkPath path = .ok () ∧ t.follow (Location.start path) (Path.names path) = .ok l := by
  unfold reach
  cases checkPath path <;> simp

theorem checkPath_eq_ok {path : String} :
    checkPath path = .ok () ↔
      path ≠ "" ∧ '\x00' ∉ path.toList ∧ path.utf8ByteSize ≤ maxPathBytes := by
  rw [checkPath, String.contains_char_eq]
  split_ifs with hempty hnul hlong <;> simp_all

theorem sheltered_reach {path : String} {l : Location} (h : t.reach path = .ok l) :
    t.Sheltered l :=
  sheltered_follow (sheltered_of_isDirectory (isDirectory_start path)) (reach_eq_ok.mp h).2

/-- A name joined to a path leads one step below where the path does. -/
theorem reach_join_eq_ok {base file : String} {l : Location} (hb : base ≠ "")
    (hn : Path.IsName file) :
    t.reach (Path.join base file) = .ok l ↔ checkPath (Path.join base file) = .ok () ∧
      ∃ d, t.follow (Location.start base) (Path.names base) = .ok d ∧ t.isFile d = false ∧
        t.isDirectory d = true ∧ file.utf8ByteSize ≤ maxNameBytes ∧ d ++ [file] = l := by
  have hstart : Location.start (Path.join base file) = Location.start base := by
    rw [Location.start, Path.isAbsolute_join hb hn, Location.start]
  have hstep : ∀ d : Location, d.step file = d ++ [file] := fun d => by
    rw [Location.step, if_neg hn.notHere, if_neg hn.notAbove]
  have hlast : ∀ d, t.follow d [] = .ok l ↔ d = l := fun d => by rw [follow, Except.ok.injEq]
  simp only [reach_eq_ok, hstart, Path.names_join hb hn, follow_append_eq_ok, follow_cons_eq_ok,
    hstep, hlast]

/-- To make a directory that is there changes nothing. -/
theorem makePath_of_directory {path : String} {d : Location} (h : t.reach path = .ok d)
    (hd : t.isDirectory d = true) : t.makePath path = (.ok (), t) := by
  obtain ⟨hc, hfollow⟩ := reach_eq_ok.mp h
  have hthere : t.makeDirectory (Location.start path) (Path.names path) = .error .inTheWay := by
    simp only [makeDirectory, hfollow, hd, or_true, ↓reduceIte]
  simp only [makePath, hc]
  unfold makeDirectories
  split_ifs
  · rfl
  · simp only [hthere, unlessThere, hfollow, hd, ↓reduceIte]

/-- The tree with a file in place of what was there. -/
def put (t : FileTree) (l : Location) (bytes : ByteArray) : FileTree :=
  { t with files := (l, bytes) :: t.files.filter fun f => f.1 != l }

/-- A location for a file: below directories, and none itself. -/
structure Free (t : FileTree) (l : Location) : Prop where
  sheltered : t.Sheltered l
  notDirectory : t.isDirectory l = false

theorem write_eq_ok {path text : String} {after : FileTree} :
    t.write path text = .ok after ↔ ∃ l, t.reach path = .ok l ∧ t.Free l ∧
      Path.endsInSlash path = false ∧ after = t.put l text.toUTF8 := by
  unfold write
  cases hr : t.reach path with
  | error f => simp
  | ok l =>
    have hs := sheltered_reach hr
    by_cases h : Path.endsInSlash path = true ∨ t.isDirectory l = true
    · have hfree : t.Free l → ¬ Path.endsInSlash path = false := by
        intro hf
        simpa [hf.notDirectory] using h
      simp only [if_pos h, reduceCtorEq, Except.ok.injEq, exists_eq_left', false_iff]
      exact fun hl => hfree hl.1 hl.2.1
    · simp only [if_neg h, Except.ok.injEq, exists_eq_left']
      simp only [not_or, Bool.not_eq_true] at h
      constructor
      · rintro rfl
        exact ⟨⟨hs, h.2⟩, h.1, rfl⟩
      · exact fun hl => hl.2.2.symm

section Put

variable {l : Location} (bytes : ByteArray)

theorem isFile_put (m : Location) : (t.put l bytes).isFile m = (l == m || t.isFile m) := by
  by_cases h : l = m
  · simp [isFile, put, h]
  · have hne : ∀ f : Location × ByteArray, f.1 = m → f.1 ≠ l := fun f hf hl => h (hl.symm.trans hf)
    rw [Bool.eq_iff_iff]
    simp only [isFile, put, List.any_cons, List.any_filter, Bool.or_eq_true, beq_iff_eq, h,
      false_or, List.any_eq_true, Bool.and_eq_true, bne_iff_ne]
    constructor
    · rintro ⟨f, hf, _, hm⟩
      exact ⟨f, hf, hm⟩
    · rintro ⟨f, hf, hm⟩
      exact ⟨f, hf, hne f hm, hm⟩

theorem lookup_put_self : (t.put l bytes).files.lookup l = some bytes := by
  simp [put]

theorem lookup_put_of_ne {m : Location} (h : m ≠ l) :
    (t.put l bytes).files.lookup m = t.files.lookup m := by
  rw [put, List.lookup_cons, beq_eq_false_iff_ne.mpr h]
  dsimp only
  induction t.files with
  | nil => rfl
  | cons f fs ih =>
    by_cases hf : f.1 = l
    · have hm : (m == f.1) = false := beq_eq_false_iff_ne.mpr fun he => h (he.trans hf)
      rw [List.filter_cons_of_neg (by simpa using hf), ih, List.lookup_cons, hm]
    · rw [List.filter_cons_of_pos (by simpa using hf), List.lookup_cons, List.lookup_cons, ih]

/-- Writing a file makes no directory and takes none away. -/
theorem isDirectory_put (h : t.Free l) (m : Location) :
    (t.put l bytes).isDirectory m = t.isDirectory m := by
  rw [Bool.eq_iff_iff]
  constructor
  · intro hm
    rcases isDirectory_iff.mp hm with hm | hm | hm | ⟨f, hf, hfm, hne⟩
    · exact isDirectory_iff.mpr (.inl hm)
    · exact isDirectory_iff.mpr (.inr (.inl hm))
    · exact isDirectory_iff.mpr (.inr (.inr (.inl hm)))
    · rcases List.mem_cons.mp hf with rfl | hf
      · exact h.sheltered m hfm hne.symm
      · exact isDirectory_iff.mpr (.inr (.inr (.inr ⟨f, List.mem_of_mem_filter hf, hfm, hne⟩)))
  · intro hm
    rcases isDirectory_iff.mp hm with hm | hm | hm | ⟨f, hf, hfm, hne⟩
    · exact isDirectory_iff.mpr (.inl hm)
    · exact isDirectory_iff.mpr (.inr (.inl hm))
    · exact isDirectory_iff.mpr (.inr (.inr (.inl hm)))
    · -- A file that stood at the same place had the same directories above it.
      by_cases hl : f.1 = l
      · exact isDirectory_iff.mpr (.inr (.inr (.inr
          ⟨(l, bytes), List.mem_cons_self, hl ▸ hfm, hl ▸ hne⟩)))
      · exact isDirectory_iff.mpr (.inr (.inr (.inr ⟨f, List.mem_cons_of_mem _
          (List.mem_filter.mpr ⟨hf, by simpa using hl⟩), hfm, hne⟩)))

theorem free_put (h : t.Free l) {m : Location} (hm : t.Free m) : (t.put l bytes).Free m where
  sheltered k hk hne := (isDirectory_put bytes h k).trans (hm.sheltered k hk hne)
  notDirectory := (isDirectory_put bytes h m).trans hm.notDirectory

/-- Every way stays open. -/
theorem follow_put (h : t.Free l) {start r : Location} {names : List String}
    (hr : t.follow start names = .ok r) : (t.put l bytes).follow start names = .ok r := by
  induction names generalizing start with
  | nil => exact hr
  | cons name names ih =>
    obtain ⟨hf, hd, hn, hr⟩ := follow_cons_eq_ok.mp hr
    have hne : l ≠ start := by
      rintro rfl
      exact absurd hd (by simp [h.notDirectory])
    refine follow_cons_eq_ok.mpr ⟨?_, (isDirectory_put bytes h start).trans hd, hn, ih hr⟩
    rw [isFile_put, hf, beq_eq_false_iff_ne.mpr hne, Bool.or_false]

theorem reach_put (h : t.Free l) {path : String} {r : Location} (hr : t.reach path = .ok r) :
    (t.put l bytes).reach path = .ok r := by
  obtain ⟨hc, hf⟩ := reach_eq_ok.mp hr
  exact reach_eq_ok.mpr ⟨hc, follow_put bytes h hf⟩

end Put

theorem read_of_reach {path : String} {l : Location} (hr : t.reach path = .ok l)
    (hs : Path.endsInSlash path = false) {bytes : ByteArray} (h : t.files.lookup l = some bytes) :
    t.read path = .ok bytes := by
  simp only [read, locate, hr, hs, h, Bool.false_eq_true, ↓reduceIte]

/-- A path that a text can be written to. -/
def Takes (t : FileTree) (path : String) : Prop := ∃ after, t.write path "" = .ok after

theorem takes_iff {path : String} :
    t.Takes path ↔ ∃ l, t.reach path = .ok l ∧ t.Free l ∧ Path.endsInSlash path = false := by
  simp [Takes, write_eq_ok]

/-- A directory takes a file of a name that no directory in it has. -/
theorem takes_join_iff {base file : String} (hb : base ≠ "") (hn : Path.IsName file) :
    t.Takes (Path.join base file) ↔ checkPath (Path.join base file) = .ok () ∧
      ∃ d, t.follow (Location.start base) (Path.names base) = .ok d ∧ t.isFile d = false ∧
        t.isDirectory d = true ∧ file.utf8ByteSize ≤ maxNameBytes ∧
        t.isDirectory (d ++ [file]) = false := by
  rw [takes_iff]
  constructor
  · rintro ⟨l, hl, hfree, _⟩
    obtain ⟨hc, d, hd, hf, hdir, hsize, rfl⟩ := (reach_join_eq_ok hb hn).mp hl
    exact ⟨hc, d, hd, hf, hdir, hsize, hfree.notDirectory⟩
  · rintro ⟨hc, d, hd, hf, hdir, hsize, hfree⟩
    have hl := (reach_join_eq_ok hb hn).mpr ⟨hc, d, hd, hf, hdir, hsize, rfl⟩
    exact ⟨d ++ [file], hl, ⟨sheltered_reach hl, hfree⟩, Path.endsInSlash_join hb hn⟩

/-- Two files in one directory are both written, and each is read as it was written. -/
theorem writeEach_pair {base first second : String} (hb : base ≠ "") (hfirst : Path.IsName first)
    (hsecond : Path.IsName second) (hne : first ≠ second)
    (htakes : t.Takes (Path.join base first)) (htakes' : t.Takes (Path.join base second))
    (x y : String) :
    ∃ after, t.writeEach [(Path.join base first, x), (Path.join base second, y)] =
        (.ok (), after) ∧ after.read (Path.join base first) = .ok x.toUTF8 ∧
      after.read (Path.join base second) = .ok y.toUTF8 := by
  obtain ⟨l, hl, hfree, hslash⟩ := takes_iff.mp htakes
  obtain ⟨m, hm, hfree', hslash'⟩ := takes_iff.mp htakes'
  have hlm : l ≠ m := by
    obtain ⟨_, d, _, _, _, _, rfl⟩ := (reach_join_eq_ok hb hfirst).mp hl
    obtain ⟨_, d', _, _, _, _, rfl⟩ := (reach_join_eq_ok hb hsecond).mp hm
    simp [hne]
  have hm' := reach_put x.toUTF8 hfree hm
  have hfree2 := free_put x.toUTF8 hfree hfree'
  have hwrite : t.write (Path.join base first) x = .ok (t.put l x.toUTF8) :=
    write_eq_ok.mpr ⟨l, hl, hfree, hslash, rfl⟩
  have hwrite' : (t.put l x.toUTF8).write (Path.join base second) y =
      .ok ((t.put l x.toUTF8).put m y.toUTF8) :=
    write_eq_ok.mpr ⟨m, hm', hfree2, hslash', rfl⟩
  refine ⟨(t.put l x.toUTF8).put m y.toUTF8, ?_, ?_, ?_⟩
  · simp only [writeEach, hwrite, hwrite']
  · refine read_of_reach (reach_put _ hfree2 (reach_put _ hfree hl)) hslash ?_
    rw [lookup_put_of_ne _ hlm, lookup_put_self]
  · exact read_of_reach (reach_put _ hfree2 hm') hslash' (lookup_put_self _)

end FileTree
end ProofTrial
