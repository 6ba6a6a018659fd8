import ProofTrial.Error

/-!
Annotation logs: one annotation on a line, with a line break after the last one too. Two logs
agree when they are the same text; otherwise the first line on which they differ is reported.
-/
namespace ProofTrial.AnnotationLog

/-- The pieces between line breaks; there is one more of them than there are breaks. -/
def lines : List Char → List (List Char)
  | [] => [[]]
  | c :: r =>
    if c = '\n' then [] :: lines r
    else
      match lines r with
      | l :: ls => (c :: l) :: ls
      | [] => [[c]]

/-- The lines joined, and a line break at the end. -/
def ofList (annotations : List String) : String :=
  String.intercalate "\n" annotations ++ "\n"

/-- Counts on from `n` over the lines on which two logs agree. -/
def firstDifference (n : Nat) : List (List Char) → List (List Char) → Nat
  | a :: as, b :: bs => if a = b then firstDifference (n + 1) as bs else n
  | _, _ => n

def compare (expected actual : String) : Except Error Unit :=
  if expected = actual then .ok ()
  else
    .error (.annotationMismatch (firstDifference 1 (lines expected.toList) (lines actual.toList)))

end ProofTrial.AnnotationLog
