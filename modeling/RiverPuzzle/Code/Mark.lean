import RiverPuzzle.Text.Quoted

/-!
# Places in a source text

A place is an offset into the text.  It is shown by line and column, both
counted from one; only a line feed starts a line.  An offset may lie past the
end of the text.
-/

namespace RiverPuzzle

/-- A place in a source text. -/
structure Mark where
  source : List Char
  position : Nat
deriving DecidableEq, Repr

namespace Mark

/-- The text before the place. -/
def before (mark : Mark) : List Char :=
  mark.source.take mark.position

/-- The text from the place on. -/
def remainder (mark : Mark) : List Char :=
  mark.source.drop mark.position

/-- The line of the place. -/
def line (mark : Mark) : Nat :=
  mark.before.count '\n' + 1

/-- The offset at which the line of the place starts. -/
def lineStart (mark : Mark) : Nat :=
  mark.before.length - (mark.before.reverse.takeWhile (· != '\n')).length

/-- The column of the place. -/
def column (mark : Mark) : Nat :=
  mark.position - mark.lineStart + 1

/-- How much of the remainder a message shows. -/
def snippetLength : Nat := 20

/-- What is wrong at the place, and where the place is.  Line and column are written in full:
in a text that there is, neither comes near the number of digits at which writing fails. -/
def describe (mark : Mark) (reason : String) : String :=
  reason ++ " at line " ++ toString mark.line ++ ", column " ++ toString mark.column
    ++ ": " ++ Text.quoted (mark.remainder.take snippetLength)

end Mark

end RiverPuzzle
