import ProofTrial.Json.Reader

/-!
Reading values of a wanted shape. The first fault in the order of the text counts, whether the
text breaks off or holds a value of another shape; what nobody asked for is passed over.
-/
namespace ProofTrial.Json

namespace Node

/-- Why a node is not of a shape it does not have. -/
def mismatch : Node → JsonFault
  | .number (.error f) => f
  | .string (.error f) => f
  | .brokenWord b | .broken b => b.reading
  | _ => .data

def expectString : Node → Except JsonFault String
  | .string (.ok s) => .ok s
  | x => .error x.mismatch

def expectBool : Node → Except JsonFault Bool
  | .bool b => .ok b
  | x => .error x.mismatch

def expectInteger (lo hi : Int) : Node → Except JsonFault Int
  | .number (.ok (.integer n)) => if lo ≤ n ∧ n ≤ hi then .ok n else .error .data
  | x => .error x.mismatch

/-- A number of `bits` bits without a sign. -/
def expectNat (bits : Nat) (x : Node) : Except JsonFault Nat :=
  (x.expectInteger 0 (2 ^ bits - 1)).map Int.toNat

def expectEach (expect : Node → Except JsonFault α) : List Node → Except JsonFault (List α)
  | [] => .ok []
  | x :: xs =>
    match expect x with
    | .error f => .error f
    | .ok a => (expectEach expect xs).map (a :: ·)

def expectList (expect : Node → Except JsonFault α) : Node → Except JsonFault (List α)
  | .array items fault =>
    match expectEach expect items with
    | .error f => .error f
    | .ok xs => (endOf fault).map fun _ => xs
  | x => .error x.mismatch

def expectOption (expect : Node → Except JsonFault α) : Node → Except JsonFault (Option α)
  | .null => .ok none
  | x => (expect x).map some

/-- Fields one after the other, from the left. -/
def foldFields (step : β → String → Node → Except JsonFault β) :
    β → NodeFields → Except JsonFault β
  | b, [] => .ok b
  | _, (.error f, _) :: _ => .error f
  | b, (.ok name, x) :: r =>
    match step b name x with
    | .error f => .error f
    | .ok b => foldFields step b r

/-- An object read field by field. -/
def expectObject (step : β → String → Node → Except JsonFault β) (start : β) :
    Node → Except JsonFault β
  | .object fields fault =>
    match foldFields step start fields with
    | .error f => .error f
    | .ok b => (endOf fault).map fun _ => b
  | .unnamed _ => .error .syntaxError
  | x => .error x.mismatch

/-- Items that stand for the fields of the given names. -/
def foldItems (step : β → String → Node → Except JsonFault β) :
    β → List String → List Node → Except JsonFault (β × List Node)
  | b, [], xs => .ok (b, xs)
  | b, _ :: _, [] => .ok (b, [])
  | b, name :: names, x :: xs =>
    match step b name x with
    | .error f => .error f
    | .ok b => foldItems step b names xs

/-- A record: an object, or a list of the values of its fields in their order. -/
def expectRecord (names : List String) (step : β → String → Node → Except JsonFault β) (start : β)
    (finish : β → Except JsonFault α) : Node → Except JsonFault α
  | .array items fault =>
    match foldItems step start names items with
    | .error f => .error f
    | .ok (b, rest) =>
      if items.length < names.length then
        match endOf fault with
        | .error f => .error f
        | .ok () => finish b
      else
        match finish b with
        | .error f => .error f
        | .ok a =>
          if rest.isEmpty then (endOf fault).map fun _ => a else .error .syntaxError
  | x =>
    match x.expectObject step start with
    | .error f => .error f
    | .ok b => finish b

/-- Sets a field that may be given once. -/
def once (old : Option α) (new : Except JsonFault α) : Except JsonFault (Option α) :=
  match old with
  | some _ => .error .data
  | none => new.map some

/-- A field that may not be missing. -/
def required (field : Option α) : Except JsonFault α :=
  match field with
  | some a => .ok a
  | none => .error .data

end Node

namespace Reader

/-- A whole document, with nothing but blanks after it. -/
def decode (expect : Node → Except JsonFault α) (s : Symbols) : Except JsonFault α :=
  let d := document s
  match expect d.node with
  | .error f => .error f
  | .ok a => if d.trailing then .error .syntaxError else .ok a

end Reader

def decodeText (expect : Node → Except JsonFault α) (text : String) : Except JsonFault α :=
  Reader.decode expect (text.toList.map some)

def decodeBytes (expect : Node → Except JsonFault α) (bytes : ByteArray) : Except JsonFault α :=
  Reader.decode expect (Reader.symbols bytes)

/-- Any value. -/
def parse (text : String) : Except JsonFault Json := decodeText (Node.value maxDepth) text

end ProofTrial.Json
