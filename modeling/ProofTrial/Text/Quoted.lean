import ProofTrial.Text.Hex
import ProofTrial.Text.Unprintable

/-!
Quoted text as messages show it: between marks, with the mark, the backslash and every
unprintable character escaped.
-/
namespace ProofTrial.Text

/-- One character inside the given marks. -/
def escape (mark c : Char) : List Char :=
  if c = '\x00' then ['\\', '0']
  else if c = '\t' then ['\\', 't']
  else if c = '\r' then ['\\', 'r']
  else if c = '\n' then ['\\', 'n']
  else if c = '\\' ∨ c = mark then ['\\', c]
  else if isUnprintable c then ['\\', 'u', '\x7b'] ++ Hex.digits c.toNat ++ ['\x7d']
  else [c]

def quoted (text : String) : String :=
  String.ofList ('"' :: (text.toList.flatMap (escape '"') ++ ['"']))

def quotedChar (c : Char) : String :=
  String.ofList ('\x27' :: (escape '\x27' c ++ ['\x27']))

end ProofTrial.Text
