/-!
Bytes as text. Bytes that are no text are read with one replacement character for each longest
piece that could have begun a character.
-/
namespace ProofTrial.Text

def isTail (b : UInt8) : Bool := 0x80 ≤ b && b ≤ 0xbf

/-- What the second byte of a character may be after its first. -/
def isSecond (lead b : UInt8) : Bool :=
  if lead == 0xe0 then 0xa0 ≤ b && b ≤ 0xbf
  else if lead == 0xed then 0x80 ≤ b && b ≤ 0x9f
  else if lead == 0xf0 then 0x90 ≤ b && b ≤ 0xbf
  else if lead == 0xf4 then 0x80 ≤ b && b ≤ 0x8f
  else isTail b

/-- The low six bits of each tail byte after the payload of the first byte. -/
def join (lead : Nat) (tails : List UInt8) : Char :=
  Char.ofNat (tails.foldl (fun n b => 64 * n + b.toNat % 64) lead)

/-- A character, or the number of bytes of an ill-formed piece. -/
abbrev Decoded := Except Nat Char

/-- The characters and the ill-formed pieces of a byte string. -/
def characters : List UInt8 → List Decoded
  | [] => []
  | a :: r =>
    if a < 0x80 then .ok (join a.toNat []) :: characters r
    else if 0xc2 ≤ a && a ≤ 0xdf then
      match r with
      | [] => [.error 1]
      | b :: r1 =>
        if isTail b then .ok (join (a.toNat % 32) [b]) :: characters r1
        else .error 1 :: characters (b :: r1)
    else if 0xe0 ≤ a && a ≤ 0xef then
      match r with
      | [] => [.error 1]
      | b :: r1 =>
        if isSecond a b then
          match r1 with
          | [] => [.error 2]
          | c :: r2 =>
            if isTail c then .ok (join (a.toNat % 16) [b, c]) :: characters r2
            else .error 2 :: characters (c :: r2)
        else .error 1 :: characters (b :: r1)
    else if 0xf0 ≤ a && a ≤ 0xf4 then
      match r with
      | [] => [.error 1]
      | b :: r1 =>
        if isSecond a b then
          match r1 with
          | [] => [.error 2]
          | c :: r2 =>
            if isTail c then
              match r2 with
              | [] => [.error 3]
              | d :: r3 =>
                if isTail d then .ok (join (a.toNat % 8) [b, c, d]) :: characters r3
                else .error 3 :: characters (d :: r3)
            else .error 2 :: characters (c :: r2)
        else .error 1 :: characters (b :: r1)
    else .error 1 :: characters r

def replacement : Char := Char.ofNat 0xfffd

def Decoded.character : Decoded → Char
  | .ok c => c
  | .error _ => replacement

/-- Text from any bytes. -/
def ofBytesLossy (bytes : ByteArray) : String :=
  match String.fromUTF8? bytes with
  | some text => text
  | none => String.ofList ((characters bytes.data.toList).map Decoded.character)

end ProofTrial.Text
