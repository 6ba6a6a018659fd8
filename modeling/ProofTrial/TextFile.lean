import ProofTrial.Json.Decode

/-!
Reading files whose content is given as bytes, or that do not exist.
-/
namespace ProofTrial.TextFile

def readText (path : String) (content : Option ByteArray) : Except Error String :=
  match content with
  | none => .error (.file path .absent)
  | some bytes =>
    match String.fromUTF8? bytes with
    | some text => .ok text
    | none => .error (.file path .notText)

def readJson (expect : Json.Node → Except JsonFault α) (path : String)
    (content : Option ByteArray) : Except Error α :=
  match readText path content with
  | .error e => .error e
  | .ok text => (Json.decodeText expect text).mapError (.json path)

end ProofTrial.TextFile
