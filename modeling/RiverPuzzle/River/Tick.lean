import RiverPuzzle.River.Basic

/-!
# Ticks

In one tick every salmon follows one instruction, in order, and those that end
on a finish leave the river.  Salmon never block each other; only rocks do.  An
address behind the last instruction counts as the first one.

A tick can fail: at an address without an instruction, or at a byte that stands
for no tile.  Then the salmon before the one that fails have moved, and nobody
has left.
-/

namespace RiverPuzzle

/-- What stops a salmon. -/
inductive TickFault
  | noInstruction
  | addressTooLarge
  | unknownTile (fault : UnknownTile)
deriving DecidableEq, Repr

def TickFault.message : TickFault → String
  | .noInstruction => "tuple index out of range"
  | .addressTooLarge => "cannot fit 'int' into an index-sized integer"
  | .unknownTile fault => fault.message

/-- One more than the largest number in a signed word of sixty-four bits. -/
def wordLimit : Int := 9223372036854775808

/-- The numbers that fit in a signed word of sixty-four bits. -/
def FitsWord (number : Int) : Prop :=
  -wordLimit ≤ number ∧ number < wordLimit

instance (number : Int) : Decidable (FitsWord number) :=
  inferInstanceAs (Decidable (-wordLimit ≤ number ∧ number < wordLimit))

namespace Program

/-- The instruction at an address; a negative address counts from the end. -/
def at? (program : Program) (address : Int) : Option Instr :=
  if 0 ≤ address then program[address.toNat]?
  else if 0 ≤ address + program.size then program[(address + program.size).toNat]?
  else none

/-- The instruction at an address, or why there is none. -/
def fetch (program : Program) (address : Int) : Except TickFault Instr :=
  match program.at? address with
  | some instr => .ok instr
  | none => .error (if FitsWord address then .noInstruction else .addressTooLarge)

/-- The address to go on at, when the instructions lead to `next`. -/
def wrap (program : Program) (next : Int) : Int :=
  if next < program.size then next else 0

end Program

/-- What one turn makes of a salmon. -/
inductive Turn
  | swims (salmon : Salmon)
  | arrives (salmon : Salmon)
  | stuck (salmon : Salmon) (fault : TickFault)
deriving DecidableEq, Repr

/-- The salmon as a failing round leaves them, and what stopped it. -/
structure Jam where
  salmon : List Salmon
  fault : TickFault
deriving DecidableEq, Repr

/-- The river as a failing tick leaves it, and what stopped it. -/
structure Interruption where
  river : River
  fault : TickFault

namespace River

/-- The probe holds, seen from the cell.  Beyond the edge there is rock. -/
def sees (river : River) (probe : Probe) (cell : Cell) : Except UnknownTile Bool :=
  match cell.neighbor? probe.direction with
  | none => .ok (probe.tile = .rock)
  | some next => (river.tiles.read next).map fun tile => tile = probe.tile

/-- Where the salmon is after its instruction, and the address it leads to. -/
def follow (river : River) (salmon : Salmon) (instr : Instr) :
    Except UnknownTile (Cell × Int) :=
  match instr with
  | .move direction =>
      let next := salmon.cell.step direction
      (river.tiles.read next).map fun tile =>
        (if tile = .rock then salmon.cell else next, salmon.pc + 1)
  | .goto address => .ok (salmon.cell, address)
  | .branch probe otherwise =>
      (river.sees probe salmon.cell).map fun holds =>
        (salmon.cell, if holds then salmon.pc + 1 else otherwise)
  | .idle => .ok (salmon.cell, salmon.pc + 1)

/-- The salmon after one instruction. -/
def obey (river : River) (salmon : Salmon) : Except TickFault Salmon :=
  match river.program.fetch salmon.pc with
  | .error fault => .error fault
  | .ok instr =>
      match river.follow salmon instr with
      | .error fault => .error (.unknownTile fault)
      | .ok (cell, next) => .ok ⟨salmon.id, cell, river.program.wrap next⟩

/-- The turn of one salmon: an instruction, then a look at where it is. -/
def turn (river : River) (salmon : Salmon) : Turn :=
  match river.obey salmon with
  | .error fault => .stuck salmon fault
  | .ok moved =>
      match river.tiles.read moved.cell with
      | .error fault => .stuck moved (.unknownTile fault)
      | .ok .finish => .arrives moved
      | .ok _ => .swims moved

/-- The turns of several salmon in order, the first of which has the given place
in the river: the salmon afterwards, and the places of those that arrive. -/
def round (river : River) (place : Nat) : List Salmon → Except Jam (List Salmon × List Nat)
  | [] => .ok ([], [])
  | salmon :: rest =>
      match river.turn salmon with
      | .stuck salmon fault => .error ⟨salmon :: rest, fault⟩
      | .swims salmon =>
          match round river (place + 1) rest with
          | .ok (others, arrived) => .ok (salmon :: others, arrived)
          | .error jam => .error { jam with salmon := salmon :: jam.salmon }
      | .arrives salmon =>
          match round river (place + 1) rest with
          | .ok (others, arrived) => .ok (salmon :: others, place :: arrived)
          | .error jam => .error { jam with salmon := salmon :: jam.salmon }

/-- The salmon without those at the given places, taken out one by one, the last
place first. -/
def takeOut (places : List Nat) (salmon : List Salmon) : List Salmon :=
  places.reverse.foldl List.eraseIdx salmon

/-- The river after one tick; the level is complete when it is then empty. -/
def tick (river : River) : Except Interruption River :=
  match river.round 0 river.salmon with
  | .ok (salmon, arrived) => .ok { river with salmon := takeOut arrived salmon }
  | .error jam => .error ⟨{ river with salmon := jam.salmon }, jam.fault⟩

end River

end RiverPuzzle
