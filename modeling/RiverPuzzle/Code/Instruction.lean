import RiverPuzzle.Code.Statement
import RiverPuzzle.Text.Numeral

/-!
# Instructions

A program for the salmon is a sequence of instructions with addresses from zero
on.  A listing shows one instruction on each line behind its address.  It can
fail: an address to jump to may have too many digits to be written, and what is
no instruction at all has no text.
-/

namespace RiverPuzzle

/-- One instruction.  A branch goes on at the next address when its probe holds
and jumps otherwise.  An idle one stands for whatever else somebody puts into a
program by hand: its turn only passes. -/
inductive Instr
  | move (direction : Direction)
  | goto (address : Int)
  | branch (probe : Probe) (otherwise : Int)
  | idle
deriving DecidableEq, Repr

/-- A sequence of instructions. -/
abbrev Program := Array Instr

/-- Why an instruction cannot be put into words. -/
inductive WordingFault
  | address (fault : Text.TooManyDigits)
  | foreign
deriving DecidableEq, Repr

/-- The message; the kind of a thing that is no instruction, which would stand in front,
is not kept. -/
def WordingFault.message : WordingFault → String
  | .address fault => fault.message
  | .foreign => "object has no attribute 'condition'"

namespace Instr

/-- The address that an instruction may jump to. -/
def target? : Instr → Option Int
  | .goto address => some address
  | .branch _ otherwise => some otherwise
  | _ => none

/-- The instruction in words. -/
def text : Instr → Except WordingFault String
  | .move direction => .ok ("move " ++ String.ofList direction.word)
  | .goto address => ((Text.decimal address).mapError .address).map ("goto " ++ ·)
  | .branch probe otherwise =>
      ((Text.decimal otherwise).mapError .address).map fun address =>
        "branch_if_not " ++ String.ofList probe.direction.word ++ " "
          ++ String.ofList probe.tile.word ++ " -> " ++ address
  | .idle => .error .foreign

end Instr

namespace Program

/-- Every address that an instruction of the program may jump to, in order. -/
def targets (program : Program) : List Int :=
  program.toList.filterMap Instr.target?

/-- The number of digits of the last address. -/
def addressWidth (program : Program) : Nat :=
  (Nat.toDigits 10 (program.size - 1)).length

/-- One line of a listing; the address stands to the right of its field. -/
def listingLine (width address : Nat) (text : String) : String :=
  String.ofList ((Nat.toDigits 10 address).leftpad width ' ') ++ "  " ++ text

/-- The lines for instructions, the first of which lies at `address`. -/
def linesFrom (width address : Nat) : List Instr → Except WordingFault (List String)
  | [] => .ok []
  | instr :: rest => do
      let text ← instr.text
      let lines ← linesFrom width (address + 1) rest
      return listingLine width address text :: lines

/-- The lines of the listing. -/
def listing (program : Program) : Except WordingFault (List String) :=
  linesFrom program.addressWidth 0 program.toList

end Program

end RiverPuzzle
