import ProofTrial.Power

/-!
Hexadecimal text. Words are written `0x` and then the lowercase digits of the value without
leading zeros; bytes are written as digit pairs.
-/
namespace ProofTrial.Hex

/-- The value of a digit of either case. -/
def digitValue? (c : Char) : Option Nat :=
  if '0' ≤ c ∧ c ≤ '9' then some (c.toNat - 48)
  else if 'a' ≤ c ∧ c ≤ 'f' then some (c.toNat - 87)
  else if 'A' ≤ c ∧ c ≤ 'F' then some (c.toNat - 55)
  else none

def isDigit (c : Char) : Bool := (digitValue? c).isSome

/-- The number that digits denote; other characters count as zero. -/
def value (cs : List Char) : Nat :=
  cs.foldl (fun n c => 16 * n + (digitValue? c).getD 0) 0

def digits (n : Nat) : List Char := Nat.toDigits 16 n

/-- The one way a word is written. -/
def word (n : Nat) : String := String.ofList ('0' :: 'x' :: digits n)

def byteDigits (b : UInt8) : List Char :=
  [Nat.digitChar (b.toNat / 16), Nat.digitChar (b.toNat % 16)]

def bytesDigits (bs : List UInt8) : List Char := bs.flatMap byteDigits

/-- Digit pairs as bytes; an odd digit at the end or a foreign character refuses the text. -/
def bytes? : List Char → Option (List UInt8)
  | [] => some []
  | [_] => none
  | a :: b :: r => do
    let x ← digitValue? a
    let y ← digitValue? b
    let rest ← bytes? r
    some (UInt8.ofNat (16 * x + y) :: rest)

/-- What follows a `0x` or `0X` mark. -/
def unmark? : List Char → Option (List Char)
  | '0' :: 'x' :: r => some r
  | '0' :: 'X' :: r => some r
  | _ => none

inductive DigitFault where
  | empty
  | foreign
  | tooLarge
  deriving DecidableEq, Repr

def DigitFault.message : DigitFault → String
  | .empty => "cannot parse integer from empty string"
  | .foreign => "invalid digit found in string"
  | .tooLarge => "number too large to fit in target type"

/-- Words have 64 bits. -/
def wordLimit : Nat := 2 ^ 64

/-- Digits from the left onto what has been read; each is checked before the size of the number. -/
def readDigits : Nat → List Char → Except DigitFault Nat
  | n, [] => .ok n
  | n, c :: r =>
    match digitValue? c with
    | none => .error .foreign
    | some d => if 16 * n + d < wordLimit then readDigits (16 * n + d) r else .error .tooLarge

/-- A word without its mark: an optional plus sign and at least one digit. -/
def readMagnitude : List Char → Except DigitFault Nat
  | [] => .error .empty
  | ['+'] => .error .foreign
  | '+' :: r => readDigits 0 r
  | cs => readDigits 0 cs

inductive WordFault where
  | unmarked
  | digits (fault : DigitFault)
  deriving DecidableEq, Repr

/-- Reads a word below 2 ^ 64. -/
def readWord (text : String) : Except WordFault Nat :=
  match unmark? text.toList with
  | none => .error .unmarked
  | some cs => (readMagnitude cs).mapError .digits

end ProofTrial.Hex
