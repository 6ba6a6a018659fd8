import ProofTrial.Json.Decode
import ProofTrial.Proofs.Json.Fields
import ProofTrial.Proofs.Text.Hex

/-! Values as they are read. A value read from a node is ordered and stays within the levels that
were allowed; such a value, seen as a node, reads as itself. -/
namespace ProofTrial.Json

/-- All objects have their names in order. -/
inductive Ordered : Json → Prop where
  | null : Ordered .null
  | bool (b : Bool) : Ordered (.bool b)
  | number (n : Number) : Ordered (.number n)
  | string (s : String) : Ordered (.string s)
  | array {items : List Json} (h : ∀ v ∈ items, Ordered v) : Ordered (.array items)
  | object {fields : Fields} (sorted : Sorted fields) (h : ∀ f ∈ fields, Ordered f.2) :
      Ordered (.object fields)

/-- At most so many levels of lists and objects. -/
inductive Within : Nat → Json → Prop where
  | null (d : Nat) : Within d .null
  | bool (d : Nat) (b : Bool) : Within d (.bool b)
  | number (d : Nat) (n : Number) : Within d (.number n)
  | string (d : Nat) (s : String) : Within d (.string s)
  | array {d : Nat} {items : List Json} (h : ∀ v ∈ items, Within d v) :
      Within (d + 1) (.array items)
  | object {d : Nat} {fields : Fields} (h : ∀ f ∈ fields, Within d f.2) :
      Within (d + 1) (.object fields)

/-- All numbers are integers of 64 bits, with or without a sign. -/
inductive Integral : Json → Prop where
  | null : Integral .null
  | bool (b : Bool) : Integral (.bool b)
  | integer {n : Int} (least : Number.minInteger ≤ n) (greatest : n ≤ Number.maxInteger) :
      Integral (.number (.integer n))
  | string (s : String) : Integral (.string s)
  | array {items : List Json} (h : ∀ v ∈ items, Integral v) : Integral (.array items)
  | object {fields : Fields} (h : ∀ f ∈ fields, Integral f.2) : Integral (.object fields)

/-- The same of all that a text holds, also of what a later field of the same name replaces. -/
inductive Node.Integral : Node → Prop where
  | null : Integral .null
  | bool (b : Bool) : Integral (.bool b)
  | integer {n : Int} (least : Number.minInteger ≤ n) (greatest : n ≤ Number.maxInteger) :
      Integral (.number (.ok (.integer n)))
  | string (s : Except JsonFault String) : Integral (.string s)
  | array {items : List Node} (fault : Option Break) (h : ∀ x ∈ items, Integral x) :
      Integral (.array items fault)
  | object {fields : Node.NodeFields} (fault : Option Break) (h : ∀ f ∈ fields, Integral f.2) :
      Integral (.object fields fault)

theorem Within.mono {d e : Nat} {v : Json} (h : Within d v) (hde : d ≤ e) : Within e v := by
  induction h generalizing e with
  | null => exact .null e
  | bool d b => exact .bool e b
  | number d n => exact .number e n
  | string d s => exact .string e s
  | array h ih =>
    obtain ⟨e, rfl⟩ : ∃ e', e = e' + 1 := ⟨e - 1, by omega⟩
    exact .array fun v hv => ih v hv (by omega)
  | object h ih =>
    obtain ⟨e, rfl⟩ : ∃ e', e = e' + 1 := ⟨e - 1, by omega⟩
    exact .object fun f hf => ih f hf (by omega)

theorem ordered_strings (texts : List String) : Ordered (strings texts) := by
  refine .array ?_
  intro v hv
  obtain ⟨t, _, rfl⟩ := List.mem_map.mp hv
  exact .string t

theorem within_strings (d : Nat) (texts : List String) : Within (d + 1) (strings texts) := by
  refine .array ?_
  intro v hv
  obtain ⟨t, _, rfl⟩ := List.mem_map.mp hv
  exact .string d t

theorem integral_strings (texts : List String) : Integral (strings texts) := by
  refine .array ?_
  intro v hv
  obtain ⟨t, _, rfl⟩ := List.mem_map.mp hv
  exact .string t

theorem ordered_integer (n : Int) : Ordered (integer n) := .number _

theorem within_integer (d : Nat) (n : Int) : Within d (integer n) := .number d _

/-- Objects built with `ofFields` are ordered when the values in them are. -/
theorem Ordered.ofFields {fs : Fields} (h : ∀ f ∈ fs, Ordered f.2) : Ordered (ofFields fs) :=
  .object (sorted_sortFields fs) fun f hf => h f (mem_sortFields hf)

theorem Within.ofFields {d : Nat} {fs : Fields} (h : ∀ f ∈ fs, Within d f.2) :
    Within (d + 1) (ofFields fs) := .object fun f hf => h f (mem_sortFields hf)

theorem Ordered.sorted {fs : Fields} (h : Ordered (.object fs)) : Sorted fs := by
  cases h with
  | object hs _ => exact hs

theorem strings_injective {ts us : List String} (h : strings ts = strings us) : ts = us := by
  simp only [strings, Json.array.injEq] at h
  exact List.map_injective_iff.mpr (fun a b hab => by simpa using hab) h

theorem strings?_eq_some {v : Json} {ts : List String} : v.strings? = some ts ↔ v = strings ts := by
  cases v with
  | array items =>
    simp only [strings?, strings, Json.array.injEq]
    induction items generalizing ts with
    | nil => cases ts <;> simp
    | cons x xs ih =>
      rw [List.mapM_cons]
      cases x with
      | string s =>
        cases ts with
        | nil => cases xs.mapM string? <;> simp [string?]
        | cons t ts =>
          have ih := @ih ts
          cases hx : xs.mapM string? with
          | none =>
            rw [hx] at ih
            simp only [List.map_cons, List.cons.injEq, ← ih]
            simp [string?]
          | some us =>
            rw [hx] at ih
            simp only [List.map_cons, List.cons.injEq, ← ih]
            simp [string?]
      | null | bool b | number n | array ys | object fs => cases ts <;> simp [string?]
  | null | bool b | number n | string s | object fs => simp [strings?, strings]

theorem string?_eq_some {v : Json} {t : String} : v.string? = some t ↔ v = .string t := by
  cases v <;> simp [string?]

theorem integer?_eq_some {v : Json} {n : Int} : v.integer? = some n ↔ v = integer n := by
  cases v with
  | number k => cases k <;> simp [integer?, integer]
  | null | bool b | string s | array xs | object fs => simp [integer?, integer]

theorem except_map_eq_ok {ε α β : Type} {f : α → β} {x : Except ε α} {b : β} :
    x.map f = .ok b ↔ ∃ a, x = .ok a ∧ f a = b := by
  cases x <;> simp [Except.map]

theorem except_map_eq_error {ε α β : Type} {f : α → β} {x : Except ε α} {e : ε} :
    x.map f = .error e ↔ x = .error e := by
  cases x <;> simp [Except.map]

namespace Node

theorem values_ofItems {d : Nat} {vs : List Json} (h : ∀ v ∈ vs, value d (ofJson v) = .ok v) :
    values d (ofItems vs) = .ok vs := by
  induction vs with
  | nil => rfl
  | cons v vs ih =>
    simp only [ofItems, values, h v List.mem_cons_self,
      ih fun w hw => h w (List.mem_cons_of_mem v hw), Except.map]

theorem fieldValues_ofFieldList {d : Nat} {fs : Fields}
    (h : ∀ f ∈ fs, value d (ofJson f.2) = .ok f.2) : fieldValues d (ofFieldList fs) = .ok fs := by
  induction fs with
  | nil => rfl
  | cons f fs ih =>
    simp only [ofFieldList, fieldValues, h f List.mem_cons_self,
      ih fun g hg => h g (List.mem_cons_of_mem f hg), Except.map]

/-- An ordered value reads as itself. -/
theorem value_ofJson {v : Json} {d : Nat} (ho : Ordered v) (hw : Within d v) :
    value d (ofJson v) = .ok v := by
  induction ho generalizing d with
  | null => rfl
  | bool b => rfl
  | number n => rfl
  | string s => rfl
  | array h ih =>
    cases hw with
    | array hw =>
      simp only [ofJson, value, values_ofItems fun v hv => ih v hv (hw v hv), endOf, Except.map]
  | object hs h ih =>
    cases hw with
    | object hw =>
      simp only [ofJson, value, fieldValues_ofFieldList fun f hf => ih f hf (hw f hf), endOf,
        Except.map, ofFields_eq, sortFields_of_sorted hs]

/-- An object reads with the fields that were read in order. -/
theorem value_ofJson_object {d : Nat} {fs gs : Fields}
    (h : fieldValues d (ofFieldList fs) = .ok gs) :
    value (d + 1) (ofJson (.object fs)) = .ok (ofFields gs) := by
  simp only [ofJson, value, h, endOf, Except.map]

theorem endOf_eq_ok {fault : Option Break} : endOf fault = .ok () ↔ fault = none := by
  cases fault <;> simp [endOf]

theorem expectEach_readsEach {α : Type} (expect : Node → Except JsonFault α) :
    ReadsEach expect (expectEach expect) where
  nil := rfl
  cons x xs := by
    rw [expectEach]
    cases expect x <;> rfl

/-- A list reads where it is complete and all its items read. -/
theorem expectList_eq_ok {α : Type} {expect : Node → Except JsonFault α} {x : Node} {as : List α} :
    expectList expect x = .ok as ↔
      ∃ items, x = .array items none ∧ List.Forall₂ (fun y a => expect y = .ok a) items as := by
  unfold expectList
  split
  next items fault =>
    simp only [← (expectEach_readsEach expect).eq_ok, array.injEq]
    cases he : expectEach expect items with
    | error f => simp [he]
    | ok bs => cases fault <;> simp [endOf, Except.map, he]
  next hx =>
    simp only [reduceCtorEq, false_iff, not_exists, not_and]
    exact fun items hi _ => hx items none hi

theorem ofItems_map {α : Type} (f : α → Json) (xs : List α) :
    ofItems (xs.map f) = xs.map fun a => ofJson (f a) := by
  induction xs with
  | nil => rfl
  | cons a as ih => rw [List.map_cons, ofItems, ih, List.map_cons]

/-- A list of items that each read reads item by item. -/
theorem expectList_ofJson {α : Type} {f : α → Json} {expect : Node → Except JsonFault α}
    {xs : List α} (h : ∀ a ∈ xs, expect (ofJson (f a)) = .ok a) :
    expectList expect (ofJson (.array (xs.map f))) = .ok xs := by
  rw [expectList_eq_ok]
  refine ⟨_, rfl, ?_⟩
  rw [ofItems_map, List.forall₂_map_left_iff, List.forall₂_same]
  exact h

theorem expectString_eq_ok {x : Node} {s : String} :
    expectString x = .ok s ↔ x = .string (.ok s) := by
  unfold expectString
  split
  next t => simp
  next hx =>
    simp only [reduceCtorEq, false_iff]
    exact fun h => hx s h

theorem expectList_expectString_eq_ok {x : Node} {texts : List String} :
    expectList expectString x = .ok texts ↔ x = ofJson (strings texts) := by
  have hitems : ∀ items, List.Forall₂ (fun y t => expectString y = .ok t) items texts ↔
      items = texts.map fun t => .string (.ok t) := by
    intro items
    simp only [expectString_eq_ok]
    rw [← List.forall₂_eq_eq_eq, List.forall₂_map_right_iff]
  simp only [expectList_eq_ok, hitems, exists_eq_right, strings, ofJson, ofItems_map]

theorem value_array_eq_ok {d : Nat} {items : List Node} {fault : Option Break} {v : Json}
    (h : value d (.array items fault) = .ok v) :
    ∃ e vs, d = e + 1 ∧ values e items = .ok vs ∧ v = .array vs := by
  cases d with
  | zero => simp [value] at h
  | succ e =>
    rw [value] at h
    cases hv : values e items with
    | error f => simp [hv] at h
    | ok vs =>
      simp only [hv] at h
      obtain ⟨_, _, rfl⟩ := except_map_eq_ok.mp h
      exact ⟨e, vs, rfl, hv, rfl⟩

theorem value_object_eq_ok {d : Nat} {fields : NodeFields} {fault : Option Break} {v : Json}
    (h : value d (.object fields fault) = .ok v) :
    ∃ e fs, d = e + 1 ∧ fieldValues e fields = .ok fs ∧ v = ofFields fs := by
  cases d with
  | zero => simp [value] at h
  | succ e =>
    rw [value] at h
    cases hv : fieldValues e fields with
    | error f => simp [hv] at h
    | ok fs =>
      simp only [hv] at h
      obtain ⟨_, _, rfl⟩ := except_map_eq_ok.mp h
      exact ⟨e, fs, rfl, hv, rfl⟩

theorem values_cons_eq_ok {d : Nat} {x : Node} {xs : List Node} {vs : List Json}
    (h : values d (x :: xs) = .ok vs) :
    ∃ w ws, value d x = .ok w ∧ values d xs = .ok ws ∧ vs = w :: ws := by
  rw [values] at h
  cases hx : value d x with
  | error f => simp [hx] at h
  | ok w =>
    simp only [hx] at h
    obtain ⟨ws, hws, rfl⟩ := except_map_eq_ok.mp h
    exact ⟨w, ws, rfl, hws, rfl⟩

theorem fieldValues_cons_eq_ok {d : Nat} {name : Except JsonFault String} {x : Node}
    {xs : NodeFields} {fs : Fields} (h : fieldValues d ((name, x) :: xs) = .ok fs) :
    ∃ n w gs, name = .ok n ∧ value d x = .ok w ∧ fieldValues d xs = .ok gs ∧ fs = (n, w) :: gs := by
  cases name with
  | error f => simp [fieldValues] at h
  | ok n =>
    rw [fieldValues] at h
    cases hx : value d x with
    | error f => simp [hx] at h
    | ok w =>
      simp only [hx] at h
      obtain ⟨gs, hgs, rfl⟩ := except_map_eq_ok.mp h
      exact ⟨n, w, gs, rfl, rfl, hgs, rfl⟩

mutual
/-- What is read is ordered and within the allowed levels. -/
theorem ordered_of_value : ∀ {d : Nat} {x : Node} {v : Json}, value d x = .ok v →
    Ordered v ∧ Within d v
  | d, .null, v, h => by
    obtain rfl : Json.null = v := by simpa [value] using h
    exact ⟨.null, .null d⟩
  | d, .bool b, v, h => by
    obtain rfl : Json.bool b = v := by simpa [value] using h
    exact ⟨.bool b, .bool d b⟩
  | d, .number n, v, h => by
    rw [value] at h
    obtain ⟨n, _, rfl⟩ := except_map_eq_ok.mp h
    exact ⟨.number n, .number d n⟩
  | d, .string s, v, h => by
    rw [value] at h
    obtain ⟨s, _, rfl⟩ := except_map_eq_ok.mp h
    exact ⟨.string s, .string d s⟩
  | d, .array items fault, v, h => by
    obtain ⟨e, vs, rfl, hvs, rfl⟩ := value_array_eq_ok h
    have hi := ordered_of_values hvs
    exact ⟨.array fun w hw => (hi w hw).1, .array fun w hw => (hi w hw).2⟩
  | d, .object fields fault, v, h => by
    obtain ⟨e, fs, rfl, hfs, rfl⟩ := value_object_eq_ok h
    have hi := ordered_of_fieldValues hfs
    exact ⟨.ofFields fun f hf => (hi f hf).1, .ofFields fun f hf => (hi f hf).2⟩
  | d, .unnamed _, v, h => by simp [value] at h
  | d, .brokenWord _, v, h => by simp [value] at h
  | d, .broken _, v, h => by simp [value] at h

theorem ordered_of_values : ∀ {d : Nat} {xs : List Node} {vs : List Json},
    values d xs = .ok vs → ∀ v ∈ vs, Ordered v ∧ Within d v
  | d, [], vs, h => by
    obtain rfl : [] = vs := by simpa [values] using h
    simp
  | d, x :: xs, vs, h => by
    obtain ⟨w, ws, hx, hws, rfl⟩ := values_cons_eq_ok h
    intro v hv
    rcases List.mem_cons.mp hv with rfl | hv
    · exact ordered_of_value hx
    · exact ordered_of_values hws v hv

theorem ordered_of_fieldValues : ∀ {d : Nat} {xs : NodeFields} {fs : Fields},
    fieldValues d xs = .ok fs → ∀ f ∈ fs, Ordered f.2 ∧ Within d f.2
  | d, [], fs, h => by
    obtain rfl : [] = fs := by simpa [fieldValues] using h
    simp
  | d, (name, x) :: xs, fs, h => by
    obtain ⟨n, w, gs, _, hx, hgs, rfl⟩ := fieldValues_cons_eq_ok h
    intro f hf
    rcases List.mem_cons.mp hf with rfl | hf
    · exact ordered_of_value hx
    · exact ordered_of_fieldValues hgs f hf
end

theorem forall_of_values {p : Json → Prop} {d : Nat} {xs : List Node} {vs : List Json}
    (hx : ∀ x ∈ xs, ∀ v, value d x = .ok v → p v) (h : values d xs = .ok vs) : ∀ v ∈ vs, p v := by
  induction xs generalizing vs with
  | nil =>
    obtain rfl : [] = vs := by simpa [values] using h
    simp
  | cons x xs ih =>
    obtain ⟨w, ws, hw, hws, rfl⟩ := values_cons_eq_ok h
    exact List.forall_mem_cons.mpr ⟨hx x List.mem_cons_self w hw,
      ih (fun y hy => hx y (List.mem_cons_of_mem x hy)) hws⟩

theorem forall_of_fieldValues {p : Json → Prop} {d : Nat} {xs : NodeFields} {fs : Fields}
    (hx : ∀ f ∈ xs, ∀ v, value d f.2 = .ok v → p v) (h : fieldValues d xs = .ok fs) :
    ∀ f ∈ fs, p f.2 := by
  induction xs generalizing fs with
  | nil =>
    obtain rfl : [] = fs := by simpa [fieldValues] using h
    simp
  | cons f xs ih =>
    obtain ⟨n, w, gs, _, hw, hgs, rfl⟩ := fieldValues_cons_eq_ok h
    exact List.forall_mem_cons.mpr ⟨hx f List.mem_cons_self w hw,
      ih (fun y hy => hx y (List.mem_cons_of_mem f hy)) hgs⟩

/-- Reading makes no numbers. -/
theorem integral_of_value {d : Nat} {x : Node} {v : Json} (hx : x.Integral)
    (h : value d x = .ok v) : Json.Integral v := by
  induction hx generalizing d v with
  | null => exact Except.ok.inj h ▸ .null
  | bool b => exact Except.ok.inj h ▸ .bool b
  | integer hlo hhi => exact Except.ok.inj h ▸ .integer hlo hhi
  | string s =>
    rw [value] at h
    obtain ⟨s, _, rfl⟩ := except_map_eq_ok.mp h
    exact .string s
  | array fault _ ih =>
    obtain ⟨e, vs, rfl, hvs, rfl⟩ := value_array_eq_ok h
    exact .array (forall_of_values (fun x hx v hv => ih x hx hv) hvs)
  | object fault _ ih =>
    obtain ⟨e, fs, rfl, hfs, rfl⟩ := value_object_eq_ok h
    have hi := forall_of_fieldValues (fun f hf v hv => ih f hf hv) hfs
    exact .object fun f hf => hi f (mem_sortFields hf)

theorem integral_ofItems {vs : List Json} (h : ∀ v ∈ vs, (ofJson v).Integral) :
    ∀ x ∈ ofItems vs, x.Integral := by
  induction vs with
  | nil => simp [ofItems]
  | cons v vs ih =>
    obtain ⟨hv, hvs⟩ := List.forall_mem_cons.mp h
    exact List.forall_mem_cons.mpr ⟨hv, ih hvs⟩

theorem integral_ofFieldList {fs : Fields} (h : ∀ f ∈ fs, (ofJson f.2).Integral) :
    ∀ f ∈ ofFieldList fs, f.2.Integral := by
  induction fs with
  | nil => simp [ofFieldList]
  | cons f fs ih =>
    obtain ⟨hf, hfs⟩ := List.forall_mem_cons.mp h
    exact List.forall_mem_cons.mpr ⟨hf, ih hfs⟩

/-- Nor does writing. -/
theorem integral_ofJson {v : Json} (h : Json.Integral v) : (ofJson v).Integral := by
  induction h with
  | null => exact .null
  | bool b => exact .bool b
  | integer hlo hhi => exact .integer hlo hhi
  | string s => exact .string _
  | array _ ih => exact .array none (integral_ofItems ih)
  | object _ ih => exact .object none (integral_ofFieldList ih)

theorem names_ofFieldList (fs : Fields) :
    (ofFieldList fs).map Prod.fst = (fs.map Prod.fst).map .ok := by
  induction fs with
  | nil => rfl
  | cons f fs ih => exact congrArg (Except.ok f.1 :: ·) ih

mutual
/-- Whatever is written is passed over. -/
theorem skip_ofJson : ∀ v : Json, skip (ofJson v) = .ok ()
  | .null | .bool _ | .number _ | .string _ => rfl
  | .array items => by
    rw [ofJson, skip, skipItems_ofItems items]
  | .object fields => by
    rw [ofJson, skip, skipFields_ofFieldList fields]

theorem skipItems_ofItems : ∀ vs : List Json, skipItems (ofItems vs) = .ok ()
  | [] => rfl
  | v :: vs => by
    rw [ofItems, skipItems, skip_ofJson v]
    exact skipItems_ofItems vs

theorem skipFields_ofFieldList : ∀ fs : Fields, skipFields (ofFieldList fs) = .ok ()
  | [] => rfl
  | (n, v) :: fs => by
    rw [ofFieldList, skipFields, skip_ofJson v]
    exact skipFields_ofFieldList fs
end

theorem ofFieldList_append (fs gs : Fields) :
    ofFieldList (fs ++ gs) = ofFieldList fs ++ ofFieldList gs := by
  induction fs with
  | nil => rfl
  | cons f fs ih => rw [List.cons_append, ofFieldList, ofFieldList, ih, List.cons_append]

theorem mem_ofFieldList {fs : Fields} {f : Except JsonFault String × Node}
    (h : f ∈ ofFieldList fs) : ∃ g ∈ fs, f = (.ok g.1, ofJson g.2) := by
  induction fs with
  | nil => simp [ofFieldList] at h
  | cons g gs ih =>
    rw [ofFieldList, List.mem_cons] at h
    rcases h with rfl | h
    · exact ⟨g, List.mem_cons_self, rfl⟩
    · obtain ⟨k, hk, rfl⟩ := ih h
      exact ⟨k, List.mem_cons_of_mem g hk, rfl⟩

theorem foldFields_cons_eq_ok {β : Type} {step : β → String → Node → Except JsonFault β} {b c : β}
    {f : Except JsonFault String × Node} {fs : NodeFields} :
    foldFields step b (f :: fs) = .ok c ↔
      ∃ name d, f.1 = .ok name ∧ step b name f.2 = .ok d ∧ foldFields step d fs = .ok c := by
  obtain ⟨name, x⟩ := f
  cases name with
  | error e => simp [foldFields]
  | ok name => cases hx : step b name x <;> simp [foldFields, hx]

theorem required_eq_ok {α : Type} {field : Option α} {a : α} :
    required field = .ok a ↔ field = some a := by
  cases field <;> simp [required]

end Node
end ProofTrial.Json
