import RiverPuzzle.Text.Printable

/-!
# Quoted text

A text as it appears inside a message: between two quotation marks, on one
line, with every character that shows nothing written as an escape.
-/

namespace RiverPuzzle.Text

/-- A number in lower-case hexadecimal, padded with zeros to at least `width`. -/
def hexadecimal (width code : Nat) : List Char :=
  (Nat.toDigits 16 code).leftpad width '0'

/-- One character between quotation marks of the kind `mark`. -/
def escape (mark char : Char) : List Char :=
  let code := char.toNat
  if char == mark || char == '\\' then ['\\', char]
  else if char == '\n' then ['\\', 'n']
  else if char == '\r' then ['\\', 'r']
  else if char == '\t' then ['\\', 't']
  else if isPrintable char then [char]
  else if code < 0x100 then '\\' :: 'x' :: hexadecimal 2 code
  else if code < 0x10000 then '\\' :: 'u' :: hexadecimal 4 code
  else '\\' :: 'U' :: hexadecimal 8 code

/-- The marks are single, unless the text holds a single mark and no double. -/
def markFor (text : List Char) : Char :=
  if text.contains '\x27' && !text.contains '\x22' then '\x22' else '\x27'

/-- The text between quotation marks. -/
def quoted (text : List Char) : String :=
  let mark := markFor text
  String.ofList (mark :: text.flatMap (escape mark) ++ [mark])

end RiverPuzzle.Text
