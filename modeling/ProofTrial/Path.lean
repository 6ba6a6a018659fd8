/-!
File paths as texts with slashes between their names.
-/
namespace ProofTrial.Path

/-- `part` under `base`, or `part` alone when it is absolute. -/
def join (base part : String) : String :=
  if base = "" ∨ part.startsWith "/" then part
  else if base.endsWith "/" then base ++ part
  else base ++ "/" ++ part

/-- The names in a path, `.` and `..` among them. -/
def names (path : String) : List String :=
  ((path.toList.splitOn '/').map String.ofList).filter (· != "")

def isAbsolute (path : String) : Bool := path.startsWith "/"

/-- Whether a path asks for a directory. -/
def endsInSlash (path : String) : Bool := path.endsWith "/"

end ProofTrial.Path
