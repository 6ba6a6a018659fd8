import ProofTrial.Error
import ProofTrial.Path
import ProofTrial.TextFile

/-!
A tree of files and directories as a value. A path is followed name by name, so the way through
`..` leads over directories that must exist; the last name may lead to nothing yet.
-/
namespace ProofTrial

/-- The names down to a file or a directory: from the root, whose name is the slash, or from the
directory in use. -/
abbrev Location := List String

namespace Location

def start (path : String) : Location := if Path.isAbsolute path then ["/"] else []

/-- One name further. Nothing is above the root; above the directory in use the way is kept. -/
def step (l : Location) (name : String) : Location :=
  if name = "." then l
  else if name = ".." then
    if l = ["/"] then l
    else if l.all (· == "..") then l ++ [name]
    else l.dropLast
  else l ++ [name]

end Location

/-- What lies above a file, a directory or the directory in use is a directory. -/
structure FileTree where
  files : List (Location × ByteArray)
  directories : List Location

namespace FileTree

def empty : FileTree := ⟨[], []⟩

def isFile (t : FileTree) (l : Location) : Bool := t.files.any fun f => f.1 == l

def isDirectory (t : FileTree) (l : Location) : Bool :=
  l.all (· == "..") || l == ["/"] || t.directories.any (fun d => l.isPrefixOf d) ||
    t.files.any fun f => l.isPrefixOf f.1 && f.1 != l

def maxNameBytes : Nat := 255

def maxPathBytes : Nat := 4095

/-- Follows names from a location. -/
def follow (t : FileTree) : Location → List String → Except FileFault Location
  | l, [] => .ok l
  | l, name :: names =>
    if t.isFile l then .error .notDirectory
    else if !t.isDirectory l then .error .absent
    else if maxNameBytes < name.utf8ByteSize then .error .nameTooLong
    else t.follow (l.step name) names

/-- Refuses texts that are no paths. -/
def checkPath (path : String) : Except FileFault Unit :=
  if path = "" then .error .absent
  else if path.contains '\x00' then .error .nulByte
  else if maxPathBytes < path.utf8ByteSize then .error .nameTooLong
  else .ok ()

/-- Where a path leads, whatever it asks for. -/
def reach (t : FileTree) (path : String) : Except FileFault Location :=
  match checkPath path with
  | .error f => .error f
  | .ok () => t.follow (Location.start path) (Path.names path)

/-- Where a path leads; with a slash at its end it must lead to a directory. -/
def locate (t : FileTree) (path : String) : Except FileFault Location :=
  match t.reach path with
  | .error f => .error f
  | .ok l => if Path.endsInSlash path then t.follow l ["."] else .ok l

def read (t : FileTree) (path : String) : Except FileFault ByteArray :=
  match t.locate path with
  | .error f => .error f
  | .ok l =>
    match t.files.lookup l with
    | some bytes => .ok bytes
    | none => .error (if t.isDirectory l then .isDirectory else .absent)

def readJson (expect : Json.Node → Except JsonFault α) (t : FileTree) (path : String) :
    Except Error α :=
  match t.read path with
  | .error f => .error (.file path f)
  | .ok bytes => TextFile.readJson expect path (some bytes)

/-- Writes a text over what the file held. -/
def write (t : FileTree) (path text : String) : Except FileFault FileTree :=
  match t.reach path with
  | .error f => .error f
  | .ok l =>
    if Path.endsInSlash path ∨ t.isDirectory l then .error .isDirectory
    else .ok { t with files := (l, text.toUTF8) :: t.files.filter fun f => f.1 != l }

/-- Makes one directory. -/
def makeDirectory (t : FileTree) (start : Location) (names : List String) :
    Except FileFault FileTree :=
  match t.follow start names with
  | .error f => .error f
  | .ok l =>
    if t.isFile l ∨ t.isDirectory l then .error .inTheWay
    else .ok { t with directories := l :: t.directories }

/-- Accepts a failure to make a directory that is there already. -/
def unlessThere (t : FileTree) (start : Location) (names : List String) (f : FileFault) :
    Except FileFault Unit × FileTree :=
  match t.follow start names with
  | .ok l => (if t.isDirectory l then .ok () else .error f, t)
  | .error _ => (.error f, t)

/-- The names of the directory above, as a path is shortened. -/
def above (names : List String) : List String := (names.filter (· != ".")).dropLast

theorem above_length_lt {names : List String} (h : names ≠ []) :
    (above names).length < names.length := by
  have hl := List.length_filter_le (· != ".") names
  have hp := List.length_pos_iff.2 h
  simp only [above, List.length_dropLast]
  omega

/-- Makes a directory, and before it those above it that are missing. What is made stays, also
when a later one cannot be made. -/
def makeDirectories (t : FileTree) (start : Location) (names : List String) :
    Except FileFault Unit × FileTree :=
  if names = [] then (.ok (), t)
  else
    match t.makeDirectory start names with
    | .ok t => (.ok (), t)
    | .error .absent =>
      match t.makeDirectories start (above names) with
      | (.error f, t) => (.error f, t)
      | (.ok (), t) =>
        match t.makeDirectory start names with
        | .ok t => (.ok (), t)
        | .error f => t.unlessThere start names f
    | .error f => t.unlessThere start names f
termination_by names.length
decreasing_by exact above_length_lt (by assumption)

/-- Makes the directory of a path. -/
def makePath (t : FileTree) (path : String) : Except FileFault Unit × FileTree :=
  match checkPath path with
  | .error f => (.error f, t)
  | .ok () => t.makeDirectories (Location.start path) (Path.names path)

/-- Writes texts one after the other, up to the first that cannot be written. -/
def writeEach (t : FileTree) : List (String × String) → Except Error Unit × FileTree
  | [] => (.ok (), t)
  | (path, text) :: rest =>
    match t.write path text with
    | .error f => (.error (.file path f), t)
    | .ok t => t.writeEach rest

end FileTree
end ProofTrial
