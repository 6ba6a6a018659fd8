import ProofTrial.Error
import ProofTrial.Text.Utf8

/-!
External programs as functions of what they are given. `Program.start` runs one within a time
limit, whose end the clock is taken to show, and turns a program that cannot be started, or does not
end, into an error.
-/
namespace ProofTrial

/-- How a program ended, and what it left. -/
structure Ended (ο : Type) where
  code : ExitCode
  stderr : ByteArray
  output : ο

namespace Ended

def success (e : Ended ο) : Bool := e.code == some 0

def diagnostics (e : Ended ο) : String := Text.ofBytesLossy e.stderr

end Ended

/-- What becomes of an attempt to run a program. -/
inductive Launch (ο : Type) where
  | notStarted (reason : String)
  | overdue
  | ended (e : Ended ο)

/-- The attempt as one sees it who does not stay until the program ends. -/
def Launch.unfinished : Launch ο → Launch ο
  | notStarted reason => .notStarted reason
  | overdue | ended _ => .overdue

def Launch.map (f : α → β) : Launch α → Launch β
  | notStarted reason => .notStarted reason
  | overdue => .overdue
  | ended e => .ended { code := e.code, stderr := e.stderr, output := f e.output }

structure Program (ι ο : Type) where
  path : String
  isFile : Bool
  run : ι → Launch ο

namespace Program

/-- A program that cannot be started. -/
def refused (path : String) (isFile : Bool) (fault : FileFault) : Program ι ο :=
  ⟨path, isFile, fun _ => .notStarted fault.message⟩

/-- A program whose file does not exist. -/
def absent (path : String) : Program ι ο := .refused path false .absent

/-- The program as one sees it who never stays until it ends. -/
def unfinished (p : Program ι ο) : Program ι ο :=
  { p with run := fun input => (p.run input).unfinished }

def start (p : Program ι ο) (limit : Timespan) (input : ι) : Except Error (Ended ο) :=
  match p.run input with
  | .notStarted reason => .error (.externalProgram p.path (.notStarted reason))
  | .overdue => .error (.timeout p.path limit)
  | .ended e => .ok e

/-- Refuses a program whose file does not exist. -/
def checkPresent (p : Program ι ο) : Except Error Unit :=
  if p.isFile then .ok () else .error (.externalProgram p.path .notFound)

end Program
end ProofTrial
