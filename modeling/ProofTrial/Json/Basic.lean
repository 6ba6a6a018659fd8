import ProofTrial.Json.Number

/-!
JSON values. The fields of an object are a list in the order they are printed; values that are
read, and those built with `Json.ofFields`, have them in increasing order of their names.
-/
namespace ProofTrial

inductive Json where
  | null
  | bool (b : Bool)
  | number (n : Number)
  | string (s : String)
  | array (items : List Json)
  | object (fields : List (String × Json))
  deriving Repr

namespace Json

abbrev Fields := List (String × Json)

/-- Sets a field at its place in the order of names. -/
def setField (name : String) (v : Json) : Fields → Fields
  | [] => [(name, v)]
  | (n, w) :: r =>
    if name < n then (name, v) :: (n, w) :: r
    else if name = n then (name, v) :: r
    else (n, w) :: setField name v r

/-- An object with its names in order; of equal names the last one counts. -/
def ofFields (fields : Fields) : Json :=
  .object (fields.foldl (fun fs f => setField f.1 f.2 fs) [])

def field? (name : String) : Json → Option Json
  | .object fields => fields.lookup name
  | _ => none

def integer (n : Int) : Json := .number (.integer n)

def strings (texts : List String) : Json := .array (texts.map .string)

def string? : Json → Option String
  | .string s => some s
  | _ => none

def strings? : Json → Option (List String)
  | .array items => items.mapM string?
  | _ => none

def integer? : Json → Option Int
  | .number (.integer n) => some n
  | _ => none

mutual
def decEq : (v w : Json) → Decidable (v = w)
  | .null, .null => isTrue rfl
  | .bool a, .bool b => decidable_of_iff (a = b) (by simp)
  | .number a, .number b => decidable_of_iff (a = b) (by simp)
  | .string a, .string b => decidable_of_iff (a = b) (by simp)
  | .array xs, .array ys =>
    match decEqItems xs ys with
    | isTrue h => isTrue (h ▸ rfl)
    | isFalse h => isFalse (by simpa using h)
  | .object xs, .object ys =>
    match decEqFields xs ys with
    | isTrue h => isTrue (h ▸ rfl)
    | isFalse h => isFalse (by simpa using h)
  | .null, .bool _ | .null, .number _ | .null, .string _ | .null, .array _ | .null, .object _
  | .bool _, .null | .bool _, .number _ | .bool _, .string _ | .bool _, .array _
  | .bool _, .object _ | .number _, .null | .number _, .bool _ | .number _, .string _
  | .number _, .array _ | .number _, .object _ | .string _, .null | .string _, .bool _
  | .string _, .number _ | .string _, .array _ | .string _, .object _ | .array _, .null
  | .array _, .bool _ | .array _, .number _ | .array _, .string _ | .array _, .object _
  | .object _, .null | .object _, .bool _ | .object _, .number _ | .object _, .string _
  | .object _, .array _ => isFalse (by simp)

def decEqItems : (xs ys : List Json) → Decidable (xs = ys)
  | [], [] => isTrue rfl
  | [], _ :: _ => isFalse (by simp)
  | _ :: _, [] => isFalse (by simp)
  | x :: xs, y :: ys =>
    match decEq x y, decEqItems xs ys with
    | isTrue h, isTrue t => isTrue (by rw [h, t])
    | isFalse h, _ => isFalse (by simp [h])
    | _, isFalse t => isFalse (by simp [t])

def decEqFields : (xs ys : Fields) → Decidable (xs = ys)
  | [], [] => isTrue rfl
  | [], _ :: _ => isFalse (by simp)
  | _ :: _, [] => isFalse (by simp)
  | (m, x) :: xs, (n, y) :: ys =>
    match decEq x y, decEqFields xs ys with
    | isTrue h, isTrue t => decidable_of_iff (m = n) (by simp [h, t])
    | isFalse h, _ => isFalse (by simp [h])
    | _, isFalse t => isFalse (by simp [t])
end

instance : DecidableEq Json := decEq

end Json
end ProofTrial
