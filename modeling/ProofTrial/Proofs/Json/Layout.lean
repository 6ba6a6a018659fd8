import ProofTrial.Json.Decode
import ProofTrial.Proofs.Json.Scalar
import ProofTrial.Proofs.Json.Value

/-! Printing with any blanks between the tokens, of which the compact and the pretty text are two
cases. Reading a printed value gives the node of that value, and nothing of what follows. -/
namespace ProofTrial.Json
open Reader

/-- The blanks before an item, a field or a closing bracket of a level, and after a colon. -/
structure Layout where
  gap : Nat → List Char
  afterColon : List Char

namespace Layout

def compact : Layout := ⟨fun _ => [], []⟩

def pretty : Layout := ⟨newLine, [' ']⟩

@[simp] theorem compact_gap (level : Nat) : compact.gap level = [] := rfl

@[simp] theorem compact_afterColon : compact.afterColon = [] := rfl

@[simp] theorem pretty_gap (level : Nat) : pretty.gap level = newLine level := rfl

@[simp] theorem pretty_afterColon : pretty.afterColon = [' '] := rfl

structure Blank (l : Layout) : Prop where
  gap : ∀ level, ∀ c ∈ l.gap level, isBlank (some c) = true
  afterColon : ∀ c ∈ l.afterColon, isBlank (some c) = true

theorem blank_compact : compact.Blank := ⟨by simp, by simp⟩

theorem blank_pretty : pretty.Blank := by
  constructor
  · intro level c hc
    rcases List.mem_cons.mp hc with rfl | hc
    · rfl
    · rw [(List.mem_replicate.mp hc).2]
      rfl
  · intro c hc
    rw [List.mem_singleton.mp hc]
    rfl

mutual
def chars (l : Layout) (level : Nat) : Json → List Char
  | .null => ['n', 'u', 'l', 'l']
  | .bool b => boolChars b
  | .number n => n.chars
  | .string s => stringChars s
  | .array [] => ['[', ']']
  | .array (x :: xs) =>
    '[' :: (l.gap (level + 1) ++ (chars l (level + 1) x ++ items l level xs))
  | .object [] => ['\x7b', '\x7d']
  | .object ((n, v) :: fs) =>
    '\x7b' :: (l.gap (level + 1) ++ (stringChars n ++
      ':' :: (l.afterColon ++ (chars l (level + 1) v ++ fields l level fs))))

/-- Items after the first, and the end of the list. -/
def items (l : Layout) (level : Nat) : List Json → List Char
  | [] => l.gap level ++ [']']
  | x :: xs => ',' :: (l.gap (level + 1) ++ (chars l (level + 1) x ++ items l level xs))

/-- Fields after the first, and the end of the object. -/
def fields (l : Layout) (level : Nat) : Fields → List Char
  | [] => l.gap level ++ ['\x7d']
  | (n, v) :: fs =>
    ',' :: (l.gap (level + 1) ++ (stringChars n ++
      ':' :: (l.afterColon ++ (chars l (level + 1) v ++ fields l level fs))))
end

mutual
theorem chars_compact (level : Nat) : ∀ v, chars compact level v = compactChars v
  | .null | .bool _ | .number _ | .string _ | .array [] | .object [] => by
    simp only [chars, compactChars]
  | .array (x :: xs) => by
    simp only [chars, compactChars, chars_compact (level + 1) x, items_compact level xs, compact_gap,
      List.nil_append]
  | .object ((n, v) :: fs) => by
    simp only [chars, compactChars, chars_compact (level + 1) v, fields_compact level fs, compact_gap,
      compact_afterColon, List.nil_append]

theorem items_compact (level : Nat) : ∀ xs, items compact level xs = compactItems xs
  | [] => rfl
  | x :: xs => by
    simp only [items, compactItems, chars_compact (level + 1) x, items_compact level xs, compact_gap,
      List.nil_append]

theorem fields_compact (level : Nat) : ∀ fs, fields compact level fs = compactFields fs
  | [] => rfl
  | (n, v) :: fs => by
    simp only [fields, compactFields, chars_compact (level + 1) v, fields_compact level fs,
      compact_gap, compact_afterColon, List.nil_append]
end

mutual
theorem chars_pretty : ∀ (level : Nat) (v : Json), chars pretty level v = prettyChars level v
  | _, .null | _, .bool _ | _, .number _ | _, .string _ | _, .array [] | _, .object [] => by
    simp only [chars, prettyChars]
  | level, .array (x :: xs) => by
    simp only [chars, prettyChars, chars_pretty (level + 1) x, items_pretty level xs, pretty_gap]
  | level, .object ((n, v) :: fs) => by
    simp only [chars, prettyChars, chars_pretty (level + 1) v, fields_pretty level fs, pretty_gap,
      pretty_afterColon, List.singleton_append]

theorem items_pretty : ∀ (level : Nat) (xs : List Json),
    items pretty level xs = prettyItems level xs
  | _, [] => rfl
  | level, x :: xs => by
    simp only [items, prettyItems, chars_pretty (level + 1) x, items_pretty level xs, pretty_gap]

theorem fields_pretty : ∀ (level : Nat) (fs : Fields),
    fields pretty level fs = prettyFields level fs
  | _, [] => rfl
  | level, (n, v) :: fs => by
    simp only [fields, prettyFields, chars_pretty (level + 1) v, fields_pretty level fs, pretty_gap,
      pretty_afterColon, List.singleton_append]
end

/-- What the text of a value begins with. -/
structure Head (c : Char) : Prop where
  notBlank : isBlank (some c) = false
  notClosing : c ≠ ']'

theorem head_digit {c : Char} (h : c.isDigit = true) : Head c := by
  constructor
  · unfold isBlank
    split <;> simp_all
  · rintro rfl
    revert h
    decide

theorem chars_head {v : Json} (hv : Integral v) (l : Layout) (level : Nat) :
    ∃ c cs, chars l level v = c :: cs ∧ Head c := by
  cases hv with
  | null => exact ⟨'n', _, rfl, by decide, by decide⟩
  | bool b => cases b <;> exact ⟨_, _, rfl, by decide, by decide⟩
  | string s => exact ⟨'"', _, rfl, by decide, by decide⟩
  | @integer n _ _ =>
    by_cases hn : n < 0
    · exact ⟨'-', Nat.toDigits 10 n.natAbs, by simp [chars, Number.chars, hn], by decide, by decide⟩
    · obtain ⟨c, cs, hc⟩ := List.exists_cons_of_ne_nil
        (Nat.toDigits_ne_nil (n := n.natAbs) (b := 10))
      refine ⟨c, cs, by simp [chars, Number.chars, hn, hc], head_digit ?_⟩
      exact Nat.isDigit_of_mem_toDigits (by decide) (by decide) (hc ▸ List.mem_cons_self)
  | @array items _ => cases items <;> exact ⟨'[', _, rfl, by decide, by decide⟩
  | @object fields _ => cases fields <;> exact ⟨'\x7b', _, rfl, by decide, by decide⟩

theorem skipBlanks_append {cs : List Char} (h : ∀ c ∈ cs, isBlank (some c) = true) (s : Symbols) :
    skipBlanks (cs.map some ++ s) = skipBlanks s := by
  rw [skipBlanks, List.dropWhile_append_of_pos]
  · rfl
  · intro x hx
    obtain ⟨c, hc, rfl⟩ := List.mem_map.mp hx
    exact h c hc

theorem skipBlanks_cons {c : Char} (h : isBlank (some c) = false) (s : Symbols) :
    skipBlanks (some c :: s) = some c :: s := by
  simp [skipBlanks, h]

theorem skipBlanks_chars {v : Json} (hv : Integral v) (l : Layout) (level : Nat) (s : Symbols) :
    skipBlanks ((chars l level v).map some ++ s) = (chars l level v).map some ++ s := by
  obtain ⟨c, cs, hc, hh⟩ := chars_head hv l level
  rw [hc]
  exact skipBlanks_cons hh.notBlank _

theorem stops_of_blank {cs : List Char} {c : Char} {s : Symbols}
    (h : ∀ d ∈ cs, isBlank (some d) = true) (hc : Stops (some c :: s)) :
    Stops (cs.map some ++ some c :: s) := by
  cases cs with
  | nil => exact hc
  | cons d cs =>
    have hd := h d List.mem_cons_self
    unfold isBlank at hd
    split at hd
    · exact stops_cons (by simp_all) (by simp_all) (by simp_all) (by simp_all)
    · exact stops_cons (by simp_all) (by simp_all) (by simp_all) (by simp_all)
    · exact stops_cons (by simp_all) (by simp_all) (by simp_all) (by simp_all)
    · exact stops_cons (by simp_all) (by simp_all) (by simp_all) (by simp_all)
    · simp at hd

/-- Reading takes exactly the text of the value. -/
def Reads (l : Layout) (level : Nat) (v : Json) : Prop :=
  ∀ fuel rest, Stops rest → (chars l level v).length ≤ fuel →
    node fuel ((chars l level v).map some ++ rest) = (Node.ofJson v, some rest)

/-- The same, also in front of what could go on with a number. -/
def ReadsAnywhere (l : Layout) (level : Nat) (v : Json) : Prop :=
  ∀ fuel rest, (chars l level v).length ≤ fuel →
    node fuel ((chars l level v).map some ++ rest) = (Node.ofJson v, some rest)

theorem ReadsAnywhere.reads {l : Layout} {level : Nat} {v : Json} (h : ReadsAnywhere l level v) :
    Reads l level v := fun fuel rest _ hf => h fuel rest hf

theorem fuel_pos {l : Layout} {level fuel : Nat} {v : Json} (hv : Integral v)
    (h : (chars l level v).length ≤ fuel) : ∃ k, fuel = k + 1 := by
  obtain ⟨c, cs, hc, _⟩ := chars_head hv l level
  rw [hc, List.length_cons] at h
  exact Nat.exists_eq_add_one.mpr (by omega)

theorem reads_integer {n : Int} (hlo : Number.minInteger ≤ n) (hhi : n ≤ Number.maxInteger)
    (l : Layout) (level : Nat) : Reads l level (.number (.integer n)) := by
  intro fuel rest hr hf
  obtain ⟨k, rfl⟩ := fuel_pos (.integer hlo hhi) hf
  unfold Number.minInteger at hlo
  unfold Number.maxInteger at hhi
  have hlt : n.natAbs < 2 ^ 64 := by omega
  by_cases hn : n < 0
  · have hk : Number.integer? true n.natAbs = some (.integer n) := by
      have hz : n.natAbs ≠ 0 := by omega
      have he : -(n.natAbs : Int) = n := by omega
      rw [Number.integer?, if_pos rfl, he, Number.minInteger, if_pos ⟨hz, hlo⟩]
    simp only [chars, Number.chars, hn, ↓reduceIte, List.map_cons, List.cons_append]
    rw [node]
    simp only [Option.some.injEq, Char.reduceEq, ↓reduceIte, magnitude_toDigits hr hlt hk]
    rfl
  · have hk : Number.integer? false n.natAbs = some (.integer n) := by
      have he : (n.natAbs : Int) = n := by omega
      rw [Number.integer?, if_neg Bool.false_ne_true, he, Number.maxInteger, if_pos hhi]
    have hm := magnitude_toDigits hr hlt hk
    obtain ⟨c, cs, hc⟩ := List.exists_cons_of_ne_nil
      (Nat.toDigits_ne_nil (n := n.natAbs) (b := 10))
    have hd : c.isDigit = true :=
      Nat.isDigit_of_mem_toDigits (by decide) (by decide) (hc ▸ List.mem_cons_self)
    have hne : ∀ d : Char, d.isDigit = false → c ≠ d := by
      rintro d hd' rfl
      rw [hd] at hd'
      contradiction
    rw [hc, List.map_cons, List.cons_append] at hm
    simp only [chars, Number.chars, hn, ↓reduceIte, hc, List.map_cons, List.cons_append]
    rw [node]
    simp only [Option.some.injEq, hne 'n' rfl, hne 't' rfl, hne 'f' rfl, hne '"' rfl, hne '-' rfl,
      isDigit, hd, ↓reduceIte, hm]
    rfl

theorem readsAnywhere_null (l : Layout) (level : Nat) : ReadsAnywhere l level .null := by
  intro fuel rest hf
  obtain ⟨k, rfl⟩ := fuel_pos .null hf
  simp [chars, node, literal, Node.ofJson]

theorem readsAnywhere_bool (b : Bool) (l : Layout) (level : Nat) :
    ReadsAnywhere l level (.bool b) := by
  intro fuel rest hf
  obtain ⟨k, rfl⟩ := fuel_pos (.bool b) hf
  cases b <;> simp [chars, boolChars, node, literal, Node.ofJson]

theorem readsAnywhere_string (s : String) (l : Layout) (level : Nat) :
    ReadsAnywhere l level (.string s) := by
  intro fuel rest hf
  obtain ⟨k, rfl⟩ := fuel_pos (.string s) hf
  simp only [chars, stringChars, List.map_cons, List.cons_append]
  rw [node]
  simp only [Option.some.injEq, Char.reduceEq, ↓reduceIte, stringNode, pieces_escaped,
    textOf_pieceOf]
  rfl

/-- The head of what follows an item, up to the blanks before it. -/
theorem items_head {l : Layout} (hl : l.Blank) (level : Nat) (xs : List Json) (s : Symbols) :
    Stops ((items l level xs).map some ++ s) := by
  cases xs with
  | nil =>
    rw [items, List.map_append, List.append_assoc]
    exact stops_of_blank (hl.gap level) (stops_cons (by decide) (by decide) (by decide) (by decide))
  | cons x xs =>
    exact stops_cons (by decide) (by decide) (by decide) (by decide)

theorem fields_head {l : Layout} (hl : l.Blank) (level : Nat) (fs : Fields) (s : Symbols) :
    Stops ((fields l level fs).map some ++ s) := by
  cases fs with
  | nil =>
    rw [fields, List.map_append, List.append_assoc]
    exact stops_of_blank (hl.gap level) (stops_cons (by decide) (by decide) (by decide) (by decide))
  | cons f fs =>
    exact stops_cons (by decide) (by decide) (by decide) (by decide)

theorem reads_items {l : Layout} (hl : l.Blank) (level : Nat) {x : Json} {xs : List Json}
    (hv : ∀ v ∈ x :: xs, Integral v) (hr : ∀ v ∈ x :: xs, Reads l (level + 1) v)
    (fuel : Nat) (rest : Symbols)
    (hf : (chars l (level + 1) x ++ items l level xs).length ≤ fuel) :
    Reader.items fuel ((chars l (level + 1) x ++ items l level xs).map some ++ rest) =
      (Node.ofItems (x :: xs), none, some rest) := by
  induction xs generalizing x fuel with
  | nil =>
    simp only [items, List.length_append, List.length_singleton] at hf
    obtain ⟨k, rfl⟩ := Nat.exists_eq_add_one.mpr (show 0 < fuel by omega)
    have hx := hr x List.mem_cons_self k _ (items_head hl level [] rest) (by omega)
    rw [List.map_append, List.append_assoc, Reader.items, hx]
    simp only [items, List.map_append, List.append_assoc, skipBlanks_append (hl.gap level)]
    rw [List.map_singleton, List.singleton_append, skipBlanks_cons (by decide)]
    simp only [↓reduceIte]
    rfl
  | cons y ys ih =>
    simp only [items, List.length_append, List.length_cons] at hf
    obtain ⟨k, rfl⟩ := Nat.exists_eq_add_one.mpr (show 0 < fuel by omega)
    have hx := hr x List.mem_cons_self k _ (items_head hl level (y :: ys) rest) (by omega)
    have hy := ih (fun v h => hv v (List.mem_cons_of_mem x h))
      (fun v h => hr v (List.mem_cons_of_mem x h)) k (by
        rw [List.length_append]
        omega)
    obtain ⟨c, cs, hc, hh⟩ := chars_head (hv y (by simp)) l (level + 1)
    rw [List.map_append, List.append_assoc, Reader.items, hx]
    simp only [items, List.map_cons, List.cons_append, skipBlanks_cons (c := ',') (by decide)]
    rw [List.map_append, List.append_assoc, skipBlanks_append (hl.gap (level + 1))]
    rw [hc, List.cons_append, List.map_cons, List.cons_append] at hy ⊢
    rw [skipBlanks_cons hh.notBlank]
    simp only [Option.some.injEq, Char.reduceEq, ↓reduceIte, hh.notClosing, hy]
    rfl

/-- The text of the first field and of what follows it. -/
def field (l : Layout) (level : Nat) (n : String) (v : Json) (fs : Fields) : List Char :=
  stringChars n ++ ':' :: (l.afterColon ++ (chars l (level + 1) v ++ fields l level fs))

/-- One field: its name, its value and the text that is left. -/
theorem reads_field {l : Layout} (hl : l.Blank) (level : Nat) (n : String) {v : Json}
    (fs : Fields) (k : Nat) (rest : Symbols) (hv : Integral v) (hr : Reads l (level + 1) v)
    (hf : (chars l (level + 1) v).length ≤ k) :
    ∃ r, (field l level n v fs).map some ++ rest = some '"' :: r ∧
      pieces r = (n.toList.map pieceOf, .ok (some ':' :: ((l.afterColon.map some) ++
        ((chars l (level + 1) v).map some ++ ((fields l level fs).map some ++ rest))))) ∧
      node k (skipBlanks ((l.afterColon.map some) ++
        ((chars l (level + 1) v).map some ++ ((fields l level fs).map some ++ rest)))) =
        (Node.ofJson v, some ((fields l level fs).map some ++ rest)) := by
  refine ⟨_, ?_, pieces_escaped n.toList _, ?_⟩
  · simp [field, stringChars]
  · rw [skipBlanks_append hl.afterColon, skipBlanks_chars hv]
    exact hr k _ (fields_head hl level fs rest) hf

theorem reads_fields {l : Layout} (hl : l.Blank) (level : Nat) {n : String} {v : Json}
    {fs : Fields} (hv : ∀ f ∈ (n, v) :: fs, Integral f.2)
    (hr : ∀ f ∈ (n, v) :: fs, Reads l (level + 1) f.2) (fuel : Nat) (rest : Symbols)
    (hf : (field l level n v fs).length ≤ fuel) :
    Reader.fields fuel ((field l level n v fs).map some ++ rest) =
      (Node.ofFieldList ((n, v) :: fs), none, some rest) := by
  induction fs generalizing n v fuel with
  | nil =>
    simp only [field, stringChars, fields, List.length_append, List.length_cons,
      List.length_nil] at hf
    obtain ⟨k, rfl⟩ := Nat.exists_eq_add_one.mpr (show 0 < fuel by omega)
    obtain ⟨r, hs, hp, hx⟩ := reads_field hl level n [] k rest
      (hv _ List.mem_cons_self) (hr _ List.mem_cons_self) (by simp only; omega)
    rw [hs, Reader.fields, if_pos rfl, hp]
    simp only [skipBlanks_cons (c := ':') (by decide), ↓reduceIte, hx]
    simp only [fields, List.map_append, List.append_assoc, skipBlanks_append (hl.gap level)]
    rw [List.map_singleton, List.singleton_append, skipBlanks_cons (by decide)]
    simp only [↓reduceIte, textOf_pieceOf]
    rfl
  | cons g gs ih =>
    obtain ⟨m, w⟩ := g
    simp only [field, stringChars, fields, List.length_append, List.length_cons,
      List.length_nil] at hf
    obtain ⟨k, rfl⟩ := Nat.exists_eq_add_one.mpr (show 0 < fuel by omega)
    obtain ⟨r, hs, hp, hx⟩ := reads_field hl level n ((m, w) :: gs) k rest
      (hv _ List.mem_cons_self) (hr _ List.mem_cons_self) (by simp only; omega)
    have hy := ih (n := m) (v := w) (fun f h => hv f (List.mem_cons_of_mem _ h))
      (fun f h => hr f (List.mem_cons_of_mem _ h)) k (by
        simp only [field, stringChars, List.length_append, List.length_cons, List.length_nil]
        omega)
    have hg : fields l level ((m, w) :: gs) =
        ',' :: (l.gap (level + 1) ++ field l level m w gs) := rfl
    have hq : skipBlanks ((field l level m w gs).map some ++ rest) =
        (field l level m w gs).map some ++ rest := skipBlanks_cons (by decide) _
    rw [hs, Reader.fields, if_pos rfl, hp]
    simp only [skipBlanks_cons (c := ':') (by decide), ↓reduceIte, hx]
    simp only [hg, List.map_cons, List.cons_append, skipBlanks_cons (c := ',') (by decide)]
    rw [List.map_append, List.append_assoc, skipBlanks_append (hl.gap (level + 1)), hq, hy]
    simp only [Option.some.injEq, Char.reduceEq, ↓reduceIte, textOf_pieceOf]
    rfl

theorem readsAnywhere_array {l : Layout} (hl : l.Blank) {xs : List Json}
    (h : ∀ v ∈ xs, Integral v) (level : Nat) (hr : ∀ v ∈ xs, Reads l (level + 1) v) :
    ReadsAnywhere l level (.array xs) := by
  intro fuel rest hf
  obtain ⟨k, rfl⟩ := fuel_pos (.array h) hf
  cases xs with
  | nil => simp [chars, node, skipBlanks_cons, isBlank, isDigit, Node.ofJson, Node.ofItems]
  | cons x xs =>
    obtain ⟨c, cs, hc, hh⟩ := chars_head (h x List.mem_cons_self) l (level + 1)
    have hi := reads_items hl level h hr k rest (by
      simp only [chars, List.length_cons, List.length_append] at hf ⊢
      omega)
    simp only [chars, List.map_cons, List.cons_append]
    rw [node, List.map_append, List.append_assoc, skipBlanks_append (hl.gap (level + 1))]
    rw [hc, List.cons_append, List.map_cons, List.cons_append] at hi ⊢
    rw [skipBlanks_cons hh.notBlank]
    simp only [Option.some.injEq, Char.reduceEq, ↓reduceIte, hh.notClosing, hi, isDigit]
    rfl

theorem readsAnywhere_object {l : Layout} (hl : l.Blank) {fs : Fields}
    (h : ∀ f ∈ fs, Integral f.2) (level : Nat) (hr : ∀ f ∈ fs, Reads l (level + 1) f.2) :
    ReadsAnywhere l level (.object fs) := by
  intro fuel rest hf
  obtain ⟨k, rfl⟩ := fuel_pos (.object h) hf
  cases fs with
  | nil => simp [chars, node, skipBlanks_cons, isBlank, isDigit, Node.ofJson, Node.ofFieldList]
  | cons f fs =>
    obtain ⟨n, v⟩ := f
    have hg : chars l level (.object ((n, v) :: fs)) =
        '\x7b' :: (l.gap (level + 1) ++ field l level n v fs) := rfl
    rw [hg, List.length_cons, List.length_append] at hf
    have hi := reads_fields hl level h hr k rest (by omega)
    have hq : field l level n v fs = '"' :: (field l level n v fs).tail := rfl
    rw [hg, List.map_cons, List.cons_append, node, List.map_append, List.append_assoc,
      skipBlanks_append (hl.gap (level + 1))]
    rw [hq, List.map_cons, List.cons_append] at hi ⊢
    rw [skipBlanks_cons (by decide)]
    simp only [Option.some.injEq, Char.reduceEq, ↓reduceIte, isDigit, ne_eq, not_true, hi]
    rfl

/-- Every value with integers for numbers reads back, however it is laid out. -/
theorem reads {l : Layout} (hl : l.Blank) {v : Json} (hv : Integral v) (level : Nat) :
    Reads l level v := by
  induction hv generalizing level with
  | null => exact (readsAnywhere_null l level).reads
  | bool b => exact (readsAnywhere_bool b l level).reads
  | integer hlo hhi => exact reads_integer hlo hhi l level
  | string s => exact (readsAnywhere_string s l level).reads
  | array h ih => exact (readsAnywhere_array hl h level fun v hv => ih v hv (level + 1)).reads
  | object h ih => exact (readsAnywhere_object hl h level fun f hf => ih f hf (level + 1)).reads

/-- Only a bare number needs something behind it that ends it. -/
theorem readsAnywhere {l : Layout} (hl : l.Blank) {v : Json} (hv : Integral v)
    (hn : ∀ n, v ≠ .number n) (level : Nat) : ReadsAnywhere l level v := by
  cases hv with
  | null => exact readsAnywhere_null l level
  | bool b => exact readsAnywhere_bool b l level
  | integer => exact absurd rfl (hn _)
  | string s => exact readsAnywhere_string s l level
  | array h => exact readsAnywhere_array hl h level fun v hv => reads hl (h v hv) (level + 1)
  | object h => exact readsAnywhere_object hl h level fun f hf => reads hl (h f hf) (level + 1)

/-- A document that holds a printed value and nothing else. -/
theorem document_chars {l : Layout} (hl : l.Blank) {v : Json} (hv : Integral v) :
    document ((chars l 0 v).map some) = ⟨Node.ofJson v, false⟩ := by
  have hr := reads hl hv 0 (2 * (chars l 0 v).length + 2) [] stops_nil (by omega)
  have hs := skipBlanks_chars hv l 0 []
  rw [List.append_nil] at hr hs
  simp only [document, hs, List.length_map, hr]
  rfl

/-- A document that holds a printed list, object or word between any blanks. -/
theorem document_padded {l : Layout} (hl : l.Blank) {v : Json} (hv : Integral v)
    (hn : ∀ n, v ≠ .number n) {lead trail : List Char}
    (hlead : ∀ c ∈ lead, isBlank (some c) = true) (htrail : ∀ c ∈ trail, isBlank (some c) = true) :
    document ((lead ++ (chars l 0 v ++ trail)).map some) = ⟨Node.ofJson v, false⟩ := by
  have hr := readsAnywhere hl hv hn 0
    (2 * (chars l 0 v ++ trail).length + 2) (trail.map some) (by rw [List.length_append]; omega)
  have ht : skipBlanks (trail.map some) = [] := by
    rw [← List.append_nil (trail.map some), skipBlanks_append htrail]
    rfl
  have hs : skipBlanks ((lead ++ (chars l 0 v ++ trail)).map some) =
      (chars l 0 v).map some ++ trail.map some := by
    rw [List.map_append, skipBlanks_append hlead, List.map_append, skipBlanks_chars hv]
  rw [← List.length_map some, List.map_append] at hr
  simp only [document, hs, hr, ht]
  rfl

theorem decode_chars {l : Layout} (hl : l.Blank) {v : Json} (hv : Integral v)
    (expect : Node → Except JsonFault α) :
    Reader.decode expect ((chars l 0 v).map some) = expect (Node.ofJson v) := by
  rw [Reader.decode, document_chars hl hv]
  cases expect (Node.ofJson v) <;> rfl

end Layout

/-- What a text holds. -/
def nodeOf (text : String) : Node := (document (text.toList.map some)).node

theorem nodeOf_pretty {v : Json} (hv : Integral v) : nodeOf v.pretty = Node.ofJson v := by
  rw [nodeOf, pretty, String.toList_ofList, ← Layout.chars_pretty,
    Layout.document_chars Layout.blank_pretty hv]

theorem nodeOf_compact {v : Json} (hv : Integral v) : nodeOf v.compact = Node.ofJson v := by
  rw [nodeOf, compact, String.toList_ofList, ← Layout.chars_compact 0,
    Layout.document_chars Layout.blank_compact hv]

theorem decode_eq_ok {expect : Node → Except JsonFault α} {s : Symbols} {a : α} :
    Reader.decode expect s = .ok a ↔
      (document s).trailing = false ∧ expect (document s).node = .ok a := by
  unfold Reader.decode
  cases he : expect (document s).node with
  | error f => simp [he]
  | ok b => cases ht : (document s).trailing <;> simp [he, ht]

theorem decodeText_eq_ok {expect : Node → Except JsonFault α} {text : String} {a : α}
    (h : decodeText expect text = .ok a) : expect (nodeOf text) = .ok a :=
  (decode_eq_ok.mp h).2

theorem decodeText_pretty {v : Json} (hv : Integral v) (expect : Node → Except JsonFault α) :
    decodeText expect v.pretty = expect (Node.ofJson v) := by
  rw [decodeText, pretty, String.toList_ofList, ← Layout.chars_pretty]
  exact Layout.decode_chars Layout.blank_pretty hv expect

theorem decodeText_compact {v : Json} (hv : Integral v) (expect : Node → Except JsonFault α) :
    decodeText expect v.compact = expect (Node.ofJson v) := by
  rw [decodeText, compact, String.toList_ofList, ← Layout.chars_compact 0]
  exact Layout.decode_chars Layout.blank_compact hv expect

/-- Values that are read as they are written, also as fields of an object. -/
structure Plain (v : Json) : Prop where
  integral : Integral v
  ordered : Ordered v
  within : Within (maxDepth - 1) v

theorem plain_string (text : String) : Plain (.string text) :=
  ⟨.string text, .string text, .string _ text⟩

theorem plain_strings (texts : List String) : Plain (strings texts) :=
  ⟨integral_strings texts, ordered_strings texts, within_strings _ texts⟩

/-- A printed object is read with its fields in order. -/
theorem parse_object {fs : Fields} (h : ∀ f ∈ fs, Plain f.2) :
    Json.parse (Json.object fs).pretty = .ok (ofFields fs) ∧
      Json.parse (Json.object fs).compact = .ok (ofFields fs) := by
  have hi : Integral (.object fs) := .object fun f hf => (h f hf).integral
  have hv := Node.value_ofJson_object (Node.fieldValues_ofFieldList fun f hf =>
    Node.value_ofJson (h f hf).ordered (h f hf).within)
  rw [Json.parse, Json.parse, decodeText_pretty hi, decodeText_compact hi]
  exact ⟨hv, hv⟩

/-- Compact texts tell values apart. -/
theorem compact_injective {d : Nat} {v w : Json} (hv : Integral v) (hw : Integral w)
    (ho : Ordered v ∧ Within d v) (hp : Ordered w ∧ Within d w) (h : v.compact = w.compact) :
    v = w := by
  have hx := decodeText_compact hv (Node.value d)
  have hy := decodeText_compact hw (Node.value d)
  rw [Node.value_ofJson ho.1 ho.2, h] at hx
  rw [Node.value_ofJson hp.1 hp.2] at hy
  exact Except.ok.inj (hx.symm.trans hy)

/-- No compact text goes on to another one, those of bare numbers apart. -/
theorem compactChars_append_inj {d : Nat} {v w : Json} (hv : Integral v) (hw : Integral w)
    (ho : Ordered v ∧ Within d v) (hp : Ordered w ∧ Within d w) (hvn : ∀ n, v ≠ .number n)
    (hwn : ∀ n, w ≠ .number n) {a b : List Char}
    (h : v.compactChars ++ a = w.compactChars ++ b) : v = w ∧ a = b := by
  have hx := Layout.readsAnywhere Layout.blank_compact hv hvn 0
    (v.compactChars.length + w.compactChars.length) (a.map some)
  have hy := Layout.readsAnywhere Layout.blank_compact hw hwn 0
    (v.compactChars.length + w.compactChars.length) (b.map some)
  simp only [Layout.chars_compact, ← List.map_append] at hx hy
  have hx := hx (Nat.le_add_right _ _)
  rw [h, hy (Nat.le_add_left _ _)] at hx
  obtain ⟨hnode, hrest⟩ := Prod.mk.inj hx
  constructor
  · have hread := Node.value_ofJson hp.1 hp.2
    rw [hnode, Node.value_ofJson ho.1 ho.2] at hread
    exact Except.ok.inj hread
  · have hinj := List.map_injective_iff.mpr (Option.some_injective Char)
    exact (hinj (Option.some.inj hrest)).symm

end ProofTrial.Json
