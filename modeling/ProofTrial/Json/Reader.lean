import ProofTrial.Json.Node
import ProofTrial.Text.Utf8

/-!
From text to `Node`. The text is a list of symbols: characters, and `none` for each byte that
belongs to none. Nothing is refused here; a text that breaks off gives a node that says where.
-/
namespace ProofTrial.Json.Reader

abbrev Symbols := List (Option Char)

def symbols (bytes : ByteArray) : Symbols :=
  (Text.characters bytes.data.toList).flatMap fun
    | .ok c => [some c]
    | .error n => List.replicate n none

def isBlank : Option Char → Bool
  | some ' ' | some '\t' | some '\n' | some '\r' => true
  | _ => false

def skipBlanks (s : Symbols) : Symbols := s.dropWhile isBlank

def isDigit : Option Char → Bool
  | some c => c.isDigit
  | none => false

/-- A part of a string: a character as it stands, or a code unit given by its number. -/
inductive Piece where
  | symbol (c : Option Char)
  | unit (n : Nat)
  deriving DecidableEq, Repr

def hexUnit? (a b c d : Option Char) : Option Nat := do
  let w ← a.bind Hex.digitValue?
  let x ← b.bind Hex.digitValue?
  let y ← c.bind Hex.digitValue?
  let z ← d.bind Hex.digitValue?
  some (16 * (16 * (16 * w + x) + y) + z)

def byteCount (s : Symbols) : Nat :=
  (s.map fun | some c => c.utf8Size | none => 1).foldl (· + ·) 0

/-- The character that a letter after a backslash stands for. -/
def escaped? : Option Char → Option Char
  | some '"' => some '"'
  | some '\\' => some '\\'
  | some '/' => some '/'
  | some 'b' => some '\x08'
  | some 'f' => some '\x0c'
  | some 'n' => some '\n'
  | some 'r' => some '\r'
  | some 't' => some '\t'
  | _ => none

def isControl : Option Char → Bool
  | some c => c.toNat < 0x20
  | none => false

/-- The pieces of a string, and what follows its closing quote. -/
abbrev Pieces := List Piece × Except JsonFault Symbols

/-- One more piece in front. -/
def Piece.before (p : Piece) (r : Pieces) : Pieces := (p :: r.1, r.2)

/-- The pieces of a string after its opening quote. -/
def pieces : Symbols → Pieces
  | [] => ([], .error .eof)
  | c :: r =>
    if c = some '"' then ([], .ok r)
    else if c = some '\\' then
      match r with
      | [] => ([], .error .eof)
      | e :: r =>
        if e = some 'u' then
          match r with
          | w :: x :: y :: z :: r =>
            match hexUnit? w x y z with
            | some n => (Piece.unit n).before (pieces r)
            | none => ([], .error .syntaxError)
          | short => ([], .error (if byteCount short < 4 then .eof else .syntaxError))
        else
          match escaped? e with
          | some k => (Piece.symbol (some k)).before (pieces r)
          | none => ([], .error .syntaxError)
    else if isControl c then ([], .error .syntaxError)
    else (Piece.symbol c).before (pieces r)

def isLeading (n : Nat) : Bool := 0xd800 ≤ n && n ≤ 0xdbff

def isTrailing (n : Nat) : Bool := 0xdc00 ≤ n && n ≤ 0xdfff

/-- The characters of pieces, and whether they end in the first half of one. Halves of a
character come in pairs. -/
def assemble : List Piece → Except JsonFault (List Char × Bool)
  | [] => .ok ([], false)
  | .symbol c :: r => (assemble r).map fun (cs, half) => (c.getD Text.replacement :: cs, half)
  | .unit n :: r =>
    if isTrailing n then .error .syntaxError
    else if isLeading n then
      match r with
      | [] => .ok ([], true)
      | .symbol _ :: _ => .error .syntaxError
      | .unit m :: r =>
        if isTrailing m then
          (assemble r).map fun (cs, half) =>
            (Char.ofNat (0x10000 + 0x400 * (n - 0xd800) + (m - 0xdc00)) :: cs, half)
        else .error .syntaxError
    else (assemble r).map fun (cs, half) => (Char.ofNat n :: cs, half)

def isCharacter : Piece → Bool
  | .symbol none => false
  | _ => true

/-- The text of a complete string. -/
def textOf (ps : List Piece) : Except JsonFault String :=
  match assemble ps with
  | .error f => .error f
  | .ok (cs, half) =>
    if half || !ps.all isCharacter then .error .syntaxError else .ok (String.ofList cs)

/-- The break of a string that does not end. More of it could complete a character. -/
def breakOf (ps : List Piece) (f : JsonFault) : Break :=
  match assemble ps with
  | .error g => ⟨g, f⟩
  | .ok _ => Break.both f

/-- A node and what follows it, nothing when the text breaks off in it. -/
abbrev Read (α : Type) := α × Option Symbols

def brokenAt (b : Break) : Read Node := (.broken b, none)

def brokenWordAt (b : Break) : Read Node := (.brokenWord b, none)

/-- A field that breaks off in its name. -/
def namelessAt (b : Break) : Node.NodeFields × Option Break × Option Symbols :=
  ([(.error b.reading, .broken b)], none, none)

def stringNode (s : Symbols) : Read Node :=
  match pieces s with
  | (ps, .ok r) => (.string (textOf ps), some r)
  | (ps, .error f) => brokenAt (breakOf ps f)

/-- The rest of a literal after its first letter. -/
def literal (node : Node) : List Char → Symbols → Read Node
  | [], s => (node, some s)
  | _ :: _, [] => brokenWordAt Break.eof
  | c :: cs, x :: s => if x = some c then literal node cs s else brokenWordAt Break.grammar

/-- Where digits are missing: at the end of the text a reader asks for more. -/
def missingDigit (s : Symbols) : Break :=
  if s.isEmpty then ⟨.eof, .syntaxError⟩ else Break.grammar

def digitValues (ds : Symbols) : List Nat :=
  ds.filterMap fun c => c.map fun c => c.toNat - 48

def numberAt (t : Numeral) (rest : Symbols) : Read Node :=
  (.number (match Number.ofNumeral? t with | some n => .ok n | none => .error .syntaxError),
    some rest)

/-- The exponent, when there is one. -/
def exponentPart (t : Numeral) (s : Symbols) : Read Node :=
  match s with
  | some 'e' :: r | some 'E' :: r =>
    let sign : Int := if r.head? = some (some '-') then -1 else 1
    let r := if r.head? = some (some '-') ∨ r.head? = some (some '+') then r.tail else r
    let ds := r.takeWhile isDigit
    if ds.isEmpty then brokenWordAt (missingDigit r)
    else
      let n : Nat := (digitValues ds).foldl (fun n d => 10 * n + d) 0
      numberAt { t with exponent := some (sign * n) } (r.dropWhile isDigit)
  | _ => numberAt t s

/-- The part from the point on, when there is one. -/
def fractionPart (t : Numeral) (s : Symbols) : Read Node :=
  match s with
  | some '.' :: r =>
    let ds := r.takeWhile isDigit
    if ds.isEmpty then brokenWordAt (missingDigit r)
    else exponentPart { t with fraction := digitValues ds } (r.dropWhile isDigit)
  | _ => exponentPart t s

/-- A number without its sign; only the digit zero alone may begin with zero. -/
def magnitude (negative : Bool) (s : Symbols) : Read Node :=
  let ds := s.takeWhile isDigit
  if ds.isEmpty then brokenWordAt (missingDigit s)
  else if ds.head? = some (some '0') ∧ ds.length ≠ 1 then brokenWordAt Break.grammar
  else fractionPart ⟨negative, digitValues ds, [], none⟩ (s.dropWhile isDigit)

mutual
/-- The node at the head of a text without leading blanks. -/
def node : Nat → Symbols → Read Node
  | 0, _ => brokenAt Break.eof
  | _ + 1, [] => brokenAt Break.eof
  | fuel + 1, c :: r =>
    if c = some 'n' then literal .null ['u', 'l', 'l'] r
    else if c = some 't' then literal (.bool true) ['r', 'u', 'e'] r
    else if c = some 'f' then literal (.bool false) ['a', 'l', 's', 'e'] r
    else if c = some '"' then stringNode r
    else if c = some '-' then magnitude true r
    else if isDigit c then magnitude false (c :: r)
    else if c = some '[' then
      match skipBlanks r with
      | [] => (.array [] (some Break.eof), none)
      | x :: s =>
        if x = some ']' then (.array [] none, some s)
        else
          let (items, fault, rest) := items fuel (x :: s)
          (.array items fault, rest)
    else if c = some '\x7b' then
      match skipBlanks r with
      | [] => (.object [] (some Break.eof), none)
      | x :: s =>
        if x = some '\x7d' then (.object [] none, some s)
        else if x ≠ some '"' then (.unnamed (node fuel (x :: s)).1, none)
        else
          let (fields, fault, rest) := fields fuel (x :: s)
          (.object fields fault, rest)
    else brokenAt Break.grammar

/-- The items of a list from one of them on. -/
def items : Nat → Symbols → List Node × Option Break × Option Symbols
  | 0, _ => ([], some Break.eof, none)
  | fuel + 1, s =>
    match node fuel s with
    | (x, none) => ([x], none, none)
    | (x, some rest) =>
      match skipBlanks rest with
      | [] => ([x], some Break.eof, none)
      | c :: r =>
        if c = some ']' then ([x], none, some r)
        else if c = some ',' then
          match skipBlanks r with
          | [] => ([x, .broken Break.eof], none, none)
          | d :: r =>
            if d = some ']' then ([x], some Break.grammar, none)
            else
              let (xs, fault, rest) := items fuel (d :: r)
              (x :: xs, fault, rest)
        else ([x], some Break.grammar, none)

/-- The fields of an object from the name of one of them on. -/
def fields : Nat → Symbols → Node.NodeFields × Option Break × Option Symbols
  | 0, _ => namelessAt Break.eof
  | _ + 1, [] => namelessAt Break.eof
  | fuel + 1, c :: r =>
    if c = some '"' then
      match pieces r with
      | (ps, .error f) => namelessAt (breakOf ps f)
      | (ps, .ok r) =>
        let name := textOf ps
        match skipBlanks r with
        | [] => ([(name, .broken Break.eof)], none, none)
        | c :: r =>
          if c = some ':' then
            match node fuel (skipBlanks r) with
            | (x, none) => ([(name, x)], none, none)
            | (x, some rest) =>
              match skipBlanks rest with
              | [] => ([(name, x)], some Break.eof, none)
              | c :: r =>
                if c = some '\x7d' then ([(name, x)], none, some r)
                else if c = some ',' then
                  let (fs, fault, rest) := fields fuel (skipBlanks r)
                  ((name, x) :: fs, fault, rest)
                else ([(name, x)], some Break.grammar, none)
          else ([(name, .broken Break.grammar)], none, none)
    else namelessAt Break.grammar
end

/-- A text as one node, and whether more than blanks follows it. -/
structure Document where
  node : Node
  trailing : Bool

/-- Each level takes at most two steps for each symbol. -/
def document (s : Symbols) : Document :=
  let s := skipBlanks s
  match node (2 * s.length + 2) s with
  | (n, none) => ⟨n, false⟩
  | (n, some rest) => ⟨n, !(skipBlanks rest).isEmpty⟩

end ProofTrial.Json.Reader
