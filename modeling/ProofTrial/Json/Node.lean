import ProofTrial.Error
import ProofTrial.Json.Basic

/-!
What a text holds, up to the point where it stops being JSON. A node keeps apart what goes wrong
when it is read and what goes wrong when it is only passed over: a string may hold half of a
character, and a number may be too large, without harm to a text in which nobody reads them.
-/
namespace ProofTrial.Json

/-- Where a text stops being JSON. -/
structure Break where
  reading : JsonFault
  skipping : JsonFault
  deriving DecidableEq, Repr

def Break.both (f : JsonFault) : Break := ⟨f, f⟩

def Break.eof : Break := both .eof

def Break.grammar : Break := both .syntaxError

/-- `fault` tells where a list or an object stops before its end. The last three end the text:
an object that has something else in place of its first name, a literal or a number that breaks
off, and a string that does, or no value at all. -/
inductive Node where
  | null
  | bool (b : Bool)
  | number (n : Except JsonFault Number)
  | string (s : Except JsonFault String)
  | array (items : List Node) (fault : Option Break)
  | object (fields : List (Except JsonFault String × Node)) (fault : Option Break)
  | unnamed (first : Node)
  | brokenWord (fault : Break)
  | broken (fault : Break)

/-- Levels of lists and objects that may be read. -/
def maxDepth : Nat := 127

namespace Node

abbrev NodeFields := List (Except JsonFault String × Node)

def endOf (fault : Option Break) : Except JsonFault Unit :=
  match fault with
  | none => .ok ()
  | some b => .error b.reading

mutual
/-- The value of a node with at most `depth` levels; of fields with one name the last counts. -/
def value (depth : Nat) : Node → Except JsonFault Json
  | .null => .ok .null
  | .bool b => .ok (.bool b)
  | .number n => n.map .number
  | .string s => s.map .string
  | .array items fault =>
    match depth with
    | 0 => .error .syntaxError
    | d + 1 =>
      match values d items with
      | .error f => .error f
      | .ok vs => (endOf fault).map fun _ => .array vs
  | .object fields fault =>
    match depth with
    | 0 => .error .syntaxError
    | d + 1 =>
      match fieldValues d fields with
      | .error f => .error f
      | .ok fs => (endOf fault).map fun _ => ofFields fs
  | .unnamed _ => .error .syntaxError
  | .brokenWord b | .broken b => .error b.reading

def values (depth : Nat) : List Node → Except JsonFault (List Json)
  | [] => .ok []
  | x :: xs =>
    match value depth x with
    | .error f => .error f
    | .ok v => (values depth xs).map (v :: ·)

def fieldValues (depth : Nat) : List (Except JsonFault String × Node) → Except JsonFault Fields
  | [] => .ok []
  | (.error f, _) :: _ => .error f
  | (.ok name, x) :: xs =>
    match value depth x with
    | .error f => .error f
    | .ok v => (fieldValues depth xs).map ((name, v) :: ·)
end

mutual
/-- Passes over a node, at any depth. -/
def skip : Node → Except JsonFault Unit
  | .array items fault =>
    match skipItems items with
    | .error f => .error f
    | .ok () =>
      match fault with
      | none => .ok ()
      | some b => .error b.skipping
  | .object fields fault =>
    match skipFields fields with
    | .error f => .error f
    | .ok () =>
      match fault with
      | none => .ok ()
      | some b => .error b.skipping
  | .unnamed _ => .error .syntaxError
  | .brokenWord b | .broken b => .error b.skipping
  | _ => .ok ()

def skipItems : List Node → Except JsonFault Unit
  | [] => .ok ()
  | x :: xs =>
    match skip x with
    | .error f => .error f
    | .ok () => skipItems xs

def skipFields : List (Except JsonFault String × Node) → Except JsonFault Unit
  | [] => .ok ()
  | (_, x) :: xs =>
    match skip x with
    | .error f => .error f
    | .ok () => skipFields xs
end

mutual
/-- The node of a value. -/
def ofJson : Json → Node
  | .null => .null
  | .bool b => .bool b
  | .number n => .number (.ok n)
  | .string s => .string (.ok s)
  | .array items => .array (ofItems items) none
  | .object fields => .object (ofFieldList fields) none

def ofItems : List Json → List Node
  | [] => []
  | v :: vs => ofJson v :: ofItems vs

def ofFieldList : Fields → List (Except JsonFault String × Node)
  | [] => []
  | (n, v) :: fs => (.ok n, ofJson v) :: ofFieldList fs
end

end Node
end ProofTrial.Json
