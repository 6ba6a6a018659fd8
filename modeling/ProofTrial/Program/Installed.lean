import ProofTrial.FileTree
import ProofTrial.Program

/-!
Programs by their paths in a file tree.
-/
namespace ProofTrial.Program

/-- The program at a path; `runs` tells what runs from a location. Other files and directories
may not be run. -/
def atPath (t : FileTree) (runs : Location → Option (ι → Launch ο)) (path : String) :
    Program ι ο :=
  match t.locate path with
  | .error f => .refused path false f
  | .ok l =>
    match runs l with
    | some run => ⟨path, true, run⟩
    | none =>
      if t.isFile l then .refused path true .denied
      else if t.isDirectory l then .refused path false .denied
      else .absent path

end ProofTrial.Program
