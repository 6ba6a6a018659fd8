import ProofTrial.Power

/-!
BLAKE2s with a 32-byte digest and no key. The state is eight 32-bit words; a message is taken
64 bytes at a time, the last block padded with zeros and marked as the last.
-/
namespace ProofTrial

abbrev Digest := Vector UInt8 32

namespace Blake2s

abbrev Words := Vector UInt32 16

def startWords : Vector UInt32 8 :=
  #v[0x6a09e667, 0xbb67ae85, 0x3c6ef372, 0xa54ff53a, 0x510e527f, 0x9b05688c, 0x1f83d9ab, 0x5be0cd19]

/-- The message word that each half of each mixing step takes, round by round. -/
def schedule : List (Vector (Fin 16) 16) := [
  #v[0, 1, 2, 3, 4, 5, 6, 7, 8, 9, 10, 11, 12, 13, 14, 15],
  #v[14, 10, 4, 8, 9, 15, 13, 6, 1, 12, 0, 2, 11, 7, 5, 3],
  #v[11, 8, 12, 0, 5, 2, 15, 13, 10, 14, 3, 6, 7, 1, 9, 4],
  #v[7, 9, 3, 1, 13, 12, 11, 14, 2, 6, 5, 10, 4, 0, 15, 8],
  #v[9, 0, 5, 7, 2, 4, 10, 15, 14, 1, 11, 12, 6, 8, 3, 13],
  #v[2, 12, 6, 10, 0, 11, 8, 3, 4, 13, 7, 5, 15, 14, 1, 9],
  #v[12, 5, 1, 15, 14, 13, 4, 10, 0, 7, 6, 3, 9, 2, 8, 11],
  #v[13, 11, 7, 14, 12, 1, 3, 9, 5, 0, 15, 4, 8, 6, 2, 10],
  #v[6, 15, 14, 9, 11, 3, 0, 8, 12, 2, 13, 7, 1, 4, 10, 5],
  #v[10, 2, 8, 4, 7, 6, 1, 5, 15, 11, 9, 14, 3, 12, 13, 0]]

def rotateRight (x : UInt32) (n : UInt32) : UInt32 := (x >>> n) ||| (x <<< (32 - n))

/-- Mixes two message words into the four state words at `a`, `b`, `c` and `d`, turning words by
`rotate`. -/
def mixWith (rotate : UInt32 → UInt32 → UInt32) (v : Words) (a b c d : Fin 16) (x y : UInt32) :
    Words :=
  let va := v[a] + v[b] + x
  let vd := rotate (v[d] ^^^ va) 16
  let vc := v[c] + vd
  let vb := rotate (v[b] ^^^ vc) 12
  let va := va + vb + y
  let vd := rotate (vd ^^^ va) 8
  let vc := vc + vd
  let vb := rotate (vb ^^^ vc) 7
  (((v.set a va).set b vb).set c vc).set d vd

/-- Eight steps in a row, each on four places of the state: its columns, then its diagonals. -/
def overLanes (step : Fin 8 → Words → Fin 16 → Fin 16 → Fin 16 → Fin 16 → Words) (v : Words) :
    Words :=
  let v := step 0 v 0 4 8 12
  let v := step 1 v 1 5 9 13
  let v := step 2 v 2 6 10 14
  let v := step 3 v 3 7 11 15
  let v := step 4 v 0 5 10 15
  let v := step 5 v 1 6 11 12
  let v := step 6 v 2 7 8 13
  step 7 v 3 4 9 14

def round (m : Words) (v : Words) (s : Vector (Fin 16) 16) : Words :=
  overLanes (fun i v a b c d =>
    mixWith rotateRight v a b c d m[s[2 * i.val]] m[s[2 * i.val + 1]]) v

/-- One block; `taken` counts the message bytes up to its end. -/
def compress (h : Vector UInt32 8) (m : Words) (taken : Nat) (last : Bool) : Vector UInt32 8 :=
  let v : Words := h ++ startWords
  let v := v.set 12 (v[12] ^^^ UInt32.ofNat taken)
  let v := v.set 13 (v[13] ^^^ UInt32.ofNat (taken / 2 ^ 32))
  let v := if last then v.set 14 (v[14] ^^^ 0xffffffff) else v
  let v := schedule.foldl (round m) v
  Vector.ofFn fun i => h[i] ^^^ v[i.val] ^^^ v[i.val + 8]

def littleEndianWord (bytes : Array UInt8) (i : Nat) : UInt32 :=
  let byte (j : Nat) : UInt32 := (bytes.getD (4 * i + j) 0).toUInt32
  byte 0 ||| (byte 1 <<< 8) ||| (byte 2 <<< 16) ||| (byte 3 <<< 24)

/-- The words of a block of at most 64 bytes, absent bytes read as zero. -/
def blockWords (bytes : List UInt8) : Words :=
  let block := bytes.toArray
  Vector.ofFn fun i => littleEndianWord block i

/-- The empty message has one block. -/
def blockCount (length : Nat) : Nat := max 1 ((length + 63) / 64)

def finalWords (message : List UInt8) : Vector UInt32 8 :=
  let n := blockCount message.length
  (List.range n).foldl
    (fun h i => compress h (blockWords ((message.drop (64 * i)).take 64))
      (min message.length (64 * (i + 1))) (i + 1 == n))
    (startWords.set 0 (startWords[0] ^^^ 0x01010020))

def digest (message : List UInt8) : Digest :=
  let words := finalWords message
  Vector.ofFn fun i => (words[i.val / 4] >>> (8 * UInt32.ofNat (i.val % 4))).toUInt8

end Blake2s
end ProofTrial
