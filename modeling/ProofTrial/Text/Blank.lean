/-!
White space as Unicode defines it, and the words between it.
-/
namespace ProofTrial.Text

/-- The code points with the property `White_Space`. -/
def isBlank (c : Char) : Bool :=
  let n := c.toNat
  (0x09 ≤ n && n ≤ 0x0d) || n == 0x20 || n == 0x85 || n == 0xa0 || n == 0x1680 ||
    (0x2000 ≤ n && n ≤ 0x200a) || n == 0x2028 || n == 0x2029 || n == 0x202f || n == 0x205f ||
    n == 0x3000

/-- `word` holds the characters of the unfinished word, the last one first. -/
def wordsOnto (word : List Char) : List Char → List (List Char)
  | [] => if word.isEmpty then [] else [word.reverse]
  | c :: r =>
    if isBlank c then
      if word.isEmpty then wordsOnto [] r else word.reverse :: wordsOnto [] r
    else wordsOnto (c :: word) r

/-- The longest runs without white space, in order. -/
def words (text : String) : List String :=
  (wordsOnto [] text.toList).map String.ofList

/-- Drops white space at both ends. -/
def trim (text : String) : String :=
  String.ofList ((text.toList.dropWhile isBlank).reverse.dropWhile isBlank).reverse

end ProofTrial.Text
