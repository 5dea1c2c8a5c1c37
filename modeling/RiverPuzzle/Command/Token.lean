import RiverPuzzle.Command.Flag
import RiverPuzzle.Text.Digit

/-!
# Reading single arguments

An argument is a flag or a plain word.  A long flag may be cut short as long as
only one flag starts that way.  An argument with a dash in front that is no flag
counts as a word when it is a negative number or has a space in it.  Behind a
lone double dash everything is a word.
-/

namespace RiverPuzzle

/-- What an argument is.  A value is attached to a flag by an equals sign; letters
are glued to a short flag with an equals sign or without. -/
inductive Token
  | word (text : List Char)
  | separator
  | flag (spelling : Spelling) (attached : Option (List Char))
  | glued (spelling : Spelling) (letters : List Char)
  | unknown (text : List Char)
deriving DecidableEq, Repr

/-- An argument that may stand for several flags. -/
structure Ambiguity where
  argument : List Char
  matching : List Spelling
deriving DecidableEq, Repr

namespace Token

/-- The two parts of a text around its first equals sign. -/
def splitEquals? (text : List Char) : Option (List Char × List Char) :=
  match text.dropWhile (· != '=') with
  | [] => none
  | _ :: after => some (text.takeWhile (· != '='), after)

/-- A run of digits, perhaps with a line feed behind it. -/
def isDigitsToEnd (text : List Char) : Bool :=
  let digits := if text.getLast? = some '\n' then text.dropLast else text
  !digits.isEmpty && digits.all Text.isDigit

/-- A negative number, whole or with a decimal point. -/
def isNegative : List Char → Bool
  | '-' :: rest =>
      isDigitsToEnd rest
        || match rest.dropWhile Text.isDigit with
          | '.' :: decimals => isDigitsToEnd decimals
          | _ => false
  | _ => false

/-- The spelling that is written out in full. -/
def spelled? (text : List Char) : Option Spelling :=
  spellings.find? fun spelling => spelling.text = text

/-- The flag that is written out in full before an equals sign. -/
def exactAttached? (argument : List Char) : Option Token :=
  match splitEquals? argument with
  | none => none
  | some (start, value) =>
      (spelled? start).map fun spelling =>
        if spelling.isShort && !value.isEmpty then .glued spelling value
        else .flag spelling (some value)

/-- What an argument with a dash in front is, if it is no flag. -/
def ofStray (argument : List Char) : Token :=
  if isNegative argument || argument.contains ' ' then .word argument else .unknown argument

/-- What an argument with two dashes in front is, if no flag is written out. -/
def ofLong (argument : List Char) : Except Ambiguity Token :=
  let (start, attached) :=
    match splitEquals? argument with
    | some (start, value) => (start, some value)
    | none => (argument, none)
  match spellings.filter fun spelling => start.isPrefixOf spelling.text with
  | [] => .ok (ofStray argument)
  | [spelling] => .ok (.flag spelling attached)
  | several => .error ⟨argument, several⟩

/-- What an argument with one dash in front is, if no flag is written out. -/
def ofShort (argument : List Char) : Token :=
  match spelled? (argument.take 2) with
  | some spelling => .glued spelling (argument.drop 2)
  | none => ofStray argument

/-- What an argument is. -/
def ofArgument (argument : List Char) : Except Ambiguity Token :=
  match argument with
  | [] | ['-'] => .ok (.word argument)
  | '-' :: _ =>
      match spelled? argument with
      | some spelling => .ok (.flag spelling none)
      | none =>
          match exactAttached? argument with
          | some token => .ok token
          | none =>
              if argument.take 2 = ['-', '-'] then ofLong argument else .ok (ofShort argument)
  | _ => .ok (.word argument)

/-- What the arguments are. -/
def ofArguments : List (List Char) → Except Ambiguity (List Token)
  | [] => .ok []
  | ['-', '-'] :: rest => .ok (.separator :: rest.map .word)
  | argument :: rest =>
      match ofArgument argument with
      | .error ambiguity => .error ambiguity
      | .ok token => (ofArguments rest).map (token :: ·)

end Token

end RiverPuzzle
