import RiverPuzzle.Text.Blank
import RiverPuzzle.Text.Digit

/-!
# Numerals

Whole numbers written in decimal digits of any script, with an optional sign
before them, single underscores allowed between two digits, and blanks around
the whole.  The four information separators do not count as blanks here.  A
number that has too many digits is neither read nor written.
-/

namespace RiverPuzzle.Text

/-- The largest number of digits that a numeral may have, a sign not counted. -/
def maxNumeralDigits : Nat := 4300

/-- The blanks that may stand around a numeral. -/
def isNumeralBlank (char : Char) : Bool :=
  isBlank char && !(0x1C ≤ char.toNat && char.toNat ≤ 0x1F)

/-- The digits of a text in which one underscore may stand before each digit.
The digits already read come newest first. -/
def readDigits (seen : List Nat) : List Char → Option (List Nat)
  | [] => some seen.reverse
  | '_' :: char :: rest =>
      match digitValue? char with
      | some digit => readDigits (digit :: seen) rest
      | none => none
  | char :: rest =>
      match digitValue? char with
      | some digit => readDigits (digit :: seen) rest
      | none => none

/-- The digits of an unsigned numeral: at least one, and the first is a digit. -/
def numeralDigits? : List Char → Option (List Nat)
  | [] => none
  | char :: rest =>
      match digitValue? char with
      | some digit => readDigits [digit] rest
      | none => none

/-- The value of a list of digits, the highest first. -/
def digitsValue (digits : List Nat) : Nat :=
  digits.foldl (fun value digit => 10 * value + digit) 0

/-- The value of an unsigned numeral. -/
def naturalNumeral? (text : List Char) : Option Nat :=
  match numeralDigits? text with
  | some digits =>
      if digits.length ≤ maxNumeralDigits then some (digitsValue digits) else none
  | none => none

/-- The value of a numeral without blanks around it. -/
def signedNumeral? : List Char → Option Int
  | '-' :: rest => (naturalNumeral? rest).map fun value => -(value : Int)
  | '+' :: rest => (naturalNumeral? rest).map fun value => (value : Int)
  | text => (naturalNumeral? text).map fun value => (value : Int)

/-- The value of a numeral with blanks around it. -/
def numeral? (text : List Char) : Option Int :=
  signedNumeral? ((text.dropWhile isNumeralBlank).reverse.dropWhile isNumeralBlank).reverse

/-- A number with more digits than can be written. -/
structure TooManyDigits where
  number : Int
deriving DecidableEq, Repr

def TooManyDigits.message (_fault : TooManyDigits) : String :=
  "Exceeds the limit (" ++ toString maxNumeralDigits
    ++ " digits) for integer string conversion; use sys.set_int_max_str_digits() to increase "
    ++ "the limit"

/-- The number in the usual ten digits. -/
def decimal (number : Int) : Except TooManyDigits String :=
  if (Nat.toDigits 10 number.natAbs).length ≤ maxNumeralDigits then .ok (toString number)
  else .error ⟨number⟩

end RiverPuzzle.Text
