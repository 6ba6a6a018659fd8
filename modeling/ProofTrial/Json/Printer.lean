import ProofTrial.Json.Basic
import ProofTrial.Text.Hex

/-!
JSON texts of values: compact, without blanks, and pretty, with one field or item on a line and
two spaces for each level.
-/
namespace ProofTrial.Json

/-- Only the quote, the backslash and controls are escaped. -/
def escapeChar (c : Char) : List Char :=
  if c = '"' then ['\\', '"']
  else if c = '\\' then ['\\', '\\']
  else if c = '\x08' then ['\\', 'b']
  else if c = '\x0c' then ['\\', 'f']
  else if c = '\n' then ['\\', 'n']
  else if c = '\r' then ['\\', 'r']
  else if c = '\t' then ['\\', 't']
  else if c.toNat < 0x20 then '\\' :: 'u' :: '0' :: '0' :: Hex.byteDigits (UInt8.ofNat c.toNat)
  else [c]

def stringChars (s : String) : List Char :=
  '"' :: (s.toList.flatMap escapeChar ++ ['"'])

def boolChars (b : Bool) : List Char :=
  if b then ['t', 'r', 'u', 'e'] else ['f', 'a', 'l', 's', 'e']

mutual
def compactChars : Json → List Char
  | .null => ['n', 'u', 'l', 'l']
  | .bool b => boolChars b
  | .number n => n.chars
  | .string s => stringChars s
  | .array [] => ['[', ']']
  | .array (x :: xs) => '[' :: (compactChars x ++ compactItems xs)
  | .object [] => ['\x7b', '\x7d']
  | .object ((n, v) :: fs) =>
    '\x7b' :: (stringChars n ++ ':' :: (compactChars v ++ compactFields fs))

/-- Items after the first, and the end of the list. -/
def compactItems : List Json → List Char
  | [] => [']']
  | x :: xs => ',' :: (compactChars x ++ compactItems xs)

/-- Fields after the first, and the end of the object. -/
def compactFields : Fields → List Char
  | [] => ['\x7d']
  | (n, v) :: fs => ',' :: (stringChars n ++ ':' :: (compactChars v ++ compactFields fs))
end

/-- A line break and the blanks of a level. -/
def newLine (level : Nat) : List Char := '\n' :: List.replicate (2 * level) ' '

mutual
def prettyChars (level : Nat) : Json → List Char
  | .null => ['n', 'u', 'l', 'l']
  | .bool b => boolChars b
  | .number n => n.chars
  | .string s => stringChars s
  | .array [] => ['[', ']']
  | .array (x :: xs) =>
    '[' :: (newLine (level + 1) ++ (prettyChars (level + 1) x ++ prettyItems level xs))
  | .object [] => ['\x7b', '\x7d']
  | .object ((n, v) :: fs) =>
    '\x7b' :: (newLine (level + 1) ++ (stringChars n ++
      ':' :: ' ' :: (prettyChars (level + 1) v ++ prettyFields level fs)))

/-- Items after the first, and the end of the list. -/
def prettyItems (level : Nat) : List Json → List Char
  | [] => newLine level ++ [']']
  | x :: xs => ',' :: (newLine (level + 1) ++ (prettyChars (level + 1) x ++ prettyItems level xs))

/-- Fields after the first, and the end of the object. -/
def prettyFields (level : Nat) : Fields → List Char
  | [] => newLine level ++ ['\x7d']
  | (n, v) :: fs =>
    ',' :: (newLine (level + 1) ++ (stringChars n ++
      ':' :: ' ' :: (prettyChars (level + 1) v ++ prettyFields level fs)))
end

def compact (v : Json) : String := String.ofList v.compactChars

def pretty (v : Json) : String := String.ofList (v.prettyChars 0)

end ProofTrial.Json
