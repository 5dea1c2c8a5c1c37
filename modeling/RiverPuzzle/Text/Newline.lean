/-!
# Line ends

Texts end their lines with a line feed, a carriage return, or both.  Files are
read with all three made one; a text already in hand has only the pair made one.
Where a text is shown line by line, further characters end a line as well.
-/

namespace RiverPuzzle.Text

/-- Every pair of carriage return and line feed becomes a line feed. -/
def joinPairs : List Char → List Char
  | '\r' :: '\n' :: rest => '\n' :: joinPairs rest
  | char :: rest => char :: joinPairs rest
  | [] => []

/-- Every line end becomes a line feed: the pair, and a lone carriage return. -/
def unifyNewlines : List Char → List Char
  | '\r' :: '\n' :: rest => '\n' :: unifyNewlines rest
  | '\r' :: rest => '\n' :: unifyNewlines rest
  | char :: rest => char :: unifyNewlines rest
  | [] => []

/-- A character that ends a line of a shown text: the controls from line feed to
carriage return, three of the information separators, the next-line control, and
the two separators of wider Unicode. -/
def isLineEnd (char : Char) : Bool :=
  let code := char.toNat
  (0x0A ≤ code && code ≤ 0x0D) || (0x1C ≤ code && code ≤ 0x1E)
    || code == 0x85 || code == 0x2028 || code == 0x2029

/-- The lines of a text of which a part of the first line has been read, newest
character first. -/
def linesFrom (line : List Char) : List Char → List (List Char)
  | [] => if line.isEmpty then [] else [line.reverse]
  | '\r' :: '\n' :: rest => line.reverse :: linesFrom [] rest
  | char :: rest =>
      if isLineEnd char then line.reverse :: linesFrom [] rest else linesFrom (char :: line) rest

/-- The lines of a shown text, without what ends them. -/
def lines (text : List Char) : List (List Char) :=
  linesFrom [] text

end RiverPuzzle.Text
