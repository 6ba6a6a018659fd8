import ProofTrial.Random.Range
import ProofTrial.Text.Hex

/-!
Proof texts and the operators that damage them. A proof is `0x` and digit pairs, or `0x0` when
it is empty; `transform` is the raw operator, defined on any text.
-/
namespace ProofTrial

namespace ProofHex

def emptyProof : String := "0x0"

/-- A mark and a positive even number of digits, or the empty proof. -/
def isWellFormed (text : String) : Bool :=
  match text.toList with
  | '0' :: 'x' :: payload =>
    payload == ['0'] ||
      (!payload.isEmpty && payload.length % 2 == 0 && payload.all Hex.isDigit)
  | _ => false

/-- What follows the mark; the whole text when it has none. -/
def payload (text : String) : List Char :=
  match text.toList with
  | '0' :: 'x' :: r => r
  | cs => cs

def ofPayload (payload : List Char) : String := String.ofList ('0' :: 'x' :: payload)

/-- The digits in pairs: no digits when there is no byte, else one zero in front of an odd
number of them. -/
def aligned (payload : List Char) : List Char :=
  if payload = [] ∨ payload = ['0'] then []
  else if payload.length % 2 = 1 then '0' :: payload
  else payload

def isAscii (c : Char) : Bool := c.toNat < 128

/-- The digit whose value differs by the bits of `mask`, in the case of the one it replaces. -/
def flipDigit (mask : Nat) (c : Char) : Char :=
  let flipped := Nat.digitChar (((Hex.digitValue? c).getD 0 ^^^ mask) % 16)
  if c.isUpper then flipped.toUpper else flipped

end ProofHex

inductive Mutation where
  | identity
  | truncateLastByte
  | empty
  | removeRandomByte
  | flipRandomBit
  deriving DecidableEq, Repr

namespace Mutation
open ProofHex

def all : List Mutation := [identity, truncateLastByte, empty, removeRandomByte, flipRandomBit]

def name : Mutation → String
  | identity => "identity"
  | truncateLastByte => "truncate_last_byte"
  | empty => "empty"
  | removeRandomByte => "remove_random_byte"
  | flipRandomBit => "flip_random_bit"

variable {σ : Type} [RandomSource σ]

/-- Drops the last byte; a payload of one byte or less leaves the empty proof. -/
def truncate (digits : List Char) : String :=
  if digits.length ≤ 2 then emptyProof else ofPayload (digits.take (digits.length - 2))

/-- Drops a byte chosen at random; a payload of one byte or less leaves the empty proof. -/
def removeByte (digits : List Char) (s : σ) : String × σ :=
  if h : digits.length ≤ 2 then (emptyProof, s)
  else
    let (i, s) := Random.index (digits.length / 2) (by omega) s
    (ofPayload (digits.take (2 * i) ++ digits.drop (2 * i + 2)), s)

/-- Changes one bit of one digit, both chosen at random; the empty proof has no digit. -/
def flipBit (payload : List Char) (s : σ) : String × σ :=
  if h : payload = [] ∨ payload = ['0'] then (emptyProof, s)
  else
    let (i, s) := Random.index payload.length (List.length_pos_iff.2 fun e => h (.inl e)) s
    let (bit, s) := Random.below32 4 (by decide) s
    (ofPayload (payload.modify i (flipDigit (2 ^ bit.val))), s)

/-- The raw operator. A payload that is not ASCII is left alone. -/
def transform (m : Mutation) (text : String) (s : σ) : String × σ :=
  let payload := payload text
  if payload.all isAscii then
    match m with
    | identity => (text, s)
    | empty => (emptyProof, s)
    | truncateLastByte => (truncate (aligned payload), s)
    | removeRandomByte => removeByte (aligned payload) s
    | flipRandomBit => flipBit payload s
  else (text, s)

end Mutation
end ProofTrial
