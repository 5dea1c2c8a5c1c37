import RiverPuzzle.Proofs.Circles
import RiverPuzzle.Proofs.Solitude

/-!
# The journey of one salmon

Of a whole river one may follow a single salmon by its number: where it is after each tick, when
it finishes, and with which ticks it comes to the end of the program.  In a sound river a
salmon does all this by its own turns.
-/

namespace RiverPuzzle

namespace River

/-- The salmon with the given number after a number of ticks, if it is in the river then. -/
def salmonAfter? (river : River) (id : Int) (count : Nat) : Option Salmon :=
  match river.ticks count with
  | .ok now => now.salmon.find? fun salmon => salmon.id = id
  | .error _ => none

/-- The salmon is in the river before the tick, and not any more after it. -/
def FinishesAt (river : River) (id : Int) (tick : Nat) : Prop :=
  ∃ before, tick = before + 1 ∧ (river.salmonAfter? id before).isSome ∧
    river.salmonAfter? id tick = none

/-- The next instruction of the salmon leads behind the end of the program. -/
def runsOff (river : River) (salmon : Salmon) : Bool :=
  match river.program.fetch salmon.pc with
  | .error _ => false
  | .ok instr =>
      match river.follow salmon instr with
      | .error _ => false
      | .ok (_, next) => river.program.size ≤ next

/-- A pass of the salmon over the program ends with the tick. -/
def endsPass (river : River) (id : Int) : (tick : Nat) → Bool
  | 0 => false
  | before + 1 => (river.salmonAfter? id before).any river.runsOff

/-- How many passes of the salmon end with one of the ticks up to this one. -/
def passesBy (river : River) (id : Int) (tick : Nat) : Nat :=
  (List.range (tick + 1)).countP (river.endsPass id)

/-- The cells of the salmon before the first tick and after each of a number of ticks, as long
as it is in the river. -/
def trail (river : River) (id : Int) (count : Nat) : List Cell :=
  (List.range (count + 1)).filterMap fun tick => (river.salmonAfter? id tick).map Salmon.cell

/-- The cell of the salmon after a tick, twice if a pass ends with the tick. -/
def stay (river : River) (id : Int) (tick : Nat) : List Cell :=
  match river.salmonAfter? id tick with
  | none => []
  | some salmon => if river.endsPass id tick then [salmon.cell, salmon.cell] else [salmon.cell]

variable {river : River} {salmon one : Salmon} {count : Nat}

theorem passesBy_zero (river : River) (id : Int) : river.passesBy id 0 = 0 := by
  simp [passesBy, endsPass]

theorem passesBy_succ (river : River) (id : Int) (tick : Nat) :
    river.passesBy id (tick + 1) =
      river.passesBy id tick + if river.endsPass id (tick + 1) then 1 else 0 := by
  rw [passesBy, List.range_succ, List.countP_append, List.countP_singleton]
  rfl

theorem trail_succ (river : River) (id : Int) (count : Nat) :
    river.trail id (count + 1) =
      river.trail id count ++ ((river.salmonAfter? id (count + 1)).map Salmon.cell).toList := by
  rw [trail, List.range_succ, List.filterMap_append]
  cases hafter : river.salmonAfter? id (count + 1) <;> simp [trail, hafter]

theorem runsOff_eq (hproper : river.tiles.Proper) {instr : Instr}
    (hinstr : river.program.at? salmon.pc = some instr) :
    river.runsOff salmon =
      decide ((river.program.size : Int) ≤ (instr.lead river.tiles salmon.cell salmon.pc).2) := by
  simp [runsOff, Program.fetch, hinstr, follow_eq hproper]

/-- The river is sound, and the salmon is one of those in it, which are in the order of their
numbers. -/
structure Carries (river : River) (one : Salmon) : Prop where
  sound : river.Sound
  ordered : river.salmon.Pairwise fun one other => one.id < other.id
  mem : one ∈ river.salmon

namespace Carries

theorem salmonAfter?_eq (h : river.Carries one) (count : Nat) :
    river.salmonAfter? one.id count = river.fate? count one := by
  unfold salmonAfter?
  rw [h.sound.ticks_eq]
  simp only
  rw [← List.head?_filter, filter_id_iterate_drift h.ordered h.mem]
  cases river.fate? count one <;> rfl

theorem salmonAfter?_zero (h : river.Carries one) : river.salmonAfter? one.id 0 = some one :=
  h.salmonAfter?_eq 0

theorem salmonAfter?_succ (h : river.Carries one) (count : Nat) :
    river.salmonAfter? one.id (count + 1) =
      (river.salmonAfter? one.id count).bind river.survivor? := by
  rw [h.salmonAfter?_eq, h.salmonAfter?_eq]
  rfl

theorem bounds (h : river.Carries one) (hnow : river.salmonAfter? one.id count = some salmon) :
    0 ≤ salmon.pc ∧ salmon.pc < river.program.size := by
  rw [h.salmonAfter?_eq] at hnow
  exact h.sound.bounds_of_fate? h.mem hnow

/-- A salmon that is gone does not come back. -/
theorem gone_of_le (h : river.Carries one) {early late : Nat} (hle : early ≤ late)
    (hgone : river.salmonAfter? one.id early = none) : river.salmonAfter? one.id late = none := by
  rw [h.salmonAfter?_eq, ← Option.not_isSome_iff_eq_none] at hgone ⊢
  exact fun hlate => hgone (isSome_fate?_of_le hle hlate)

/-- A salmon finishes exactly if it is gone some time. -/
theorem exists_finishesAt_iff (h : river.Carries one) :
    (∃ tick, river.FinishesAt one.id tick) ↔ ∃ tick, river.salmonAfter? one.id tick = none := by
  constructor
  · rintro ⟨tick, before, -, -, hgone⟩
    exact ⟨tick, hgone⟩
  · rintro ⟨tick, hgone⟩
    induction tick with
    | zero => simp [h.salmonAfter?_zero] at hgone
    | succ tick ih =>
        by_cases hbefore : river.salmonAfter? one.id tick = none
        · exact ih hbefore
        · exact ⟨tick + 1, tick, rfl, Option.isSome_iff_ne_none.2 hbefore, hgone⟩

end Carries

/-- A fresh river carries a salmon for each start. -/
theorem carries_fresh {level : Level} {program : Program} (hproper : level.tiles.Proper)
    (hsize : 0 < program.size) (hclosed : program.Closed) {id : Nat}
    (hid : id < level.starts.length) :
    (fresh level program).Carries ⟨id, level.starts[id], 0⟩ where
  sound := sound_fresh hproper hsize hclosed
  ordered := pairwise_id_hatch level.starts
  mem := List.mem_mapIdx.2 ⟨id, hid, rfl⟩

end River

end RiverPuzzle
