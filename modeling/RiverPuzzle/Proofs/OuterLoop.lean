import RiverPuzzle.Proofs.Joining
import RiverPuzzle.Proofs.Journey

/-!
# The loop around a program

A program starts again when it has come to its end, as if there were a loop around it.  With
such a loop written down there is a jump at its end, and that takes a tick.  The main statement
compares the two for each salmon: with the loop it goes the same way, but rests for a tick in
its cell whenever a pass over the program has ended, so it finishes later by the number of
passes that it has completed before.
-/

namespace RiverPuzzle

/-- The salmon behind the last of a number of instructions. -/
def Salmon.atEnd (size : Nat) (salmon : Salmon) : Salmon :=
  { salmon with pc := size }

namespace River

/-- The second river is the first one with a jump to the beginning behind its program, and the
salmon is in both of them. -/
structure Encircled (plain outer : River) (one : Salmon) : Prop where
  tiles : outer.tiles = plain.tiles
  program : outer.program = plain.program.push (.goto 0)
  without : plain.Carries one
  within : outer.Carries one

namespace Encircled

variable {plain outer : River} {one salmon after : Salmon} {count : Nat}

theorem at?_eq (h : Encircled plain outer one) {address : Int} (hge : 0 ≤ address)
    (hlt : address < plain.program.size) :
    outer.program.at? address = plain.program.at? address := by
  have hplace : address.toNat < plain.program.size := by omega
  rw [h.program, Program.at?, Program.at?, if_pos hge, if_pos hge,
    Array.getElem?_push_lt hplace, Array.getElem?_eq_getElem hplace]

theorem at?_end (h : Encircled plain outer one) :
    outer.program.at? plain.program.size = some (.goto 0) := by
  rw [h.program, Program.at?, if_pos (Int.natCast_nonneg _), Int.toNat_natCast]
  simp

/-- Where a salmon runs off the program it comes to the jump behind it. -/
theorem led (h : Encircled plain outer one) {instr : Instr}
    (hinstr : plain.program.at? salmon.pc = some instr)
    (hend : (instr.lead plain.tiles salmon.cell salmon.pc).2 ≤ plain.program.size) :
    outer.led salmon instr =
      if plain.runsOff salmon then (plain.led salmon instr).atEnd plain.program.size
      else plain.led salmon instr := by
  rw [runsOff_eq h.without.sound.proper hinstr]
  by_cases hoff : (plain.program.size : Int) ≤ (instr.lead plain.tiles salmon.cell salmon.pc).2
  · have hnext := Int.le_antisymm hend hoff
    simp [River.led, h.tiles, h.program, hnext, Salmon.atEnd, Program.wrap]
  · have hinside := Int.not_le.1 hoff
    have hlt := Int.lt_add_one_of_le (Int.le_of_lt hinside)
    simp [River.led, h.tiles, h.program, hoff, hinside, hlt, Program.wrap]

/-- A turn has the same outcome in both rivers, but for the address of a salmon that runs off. -/
theorem survivor?_eq (h : Encircled plain outer one) (hge : 0 ≤ salmon.pc)
    (hlt : salmon.pc < plain.program.size) :
    outer.survivor? salmon = (plain.survivor? salmon).map
      (if plain.runsOff salmon then Salmon.atEnd plain.program.size else id) := by
  obtain ⟨instr, hinstr⟩ := Program.at?_of_lt hge hlt
  have houter := (h.at?_eq hge hlt).trans hinstr
  have hlead := Instr.lead_bounds h.without.sound.closed (Program.mem_of_at? hinstr) plain.tiles
    salmon.cell hge hlt
  have hled := h.led hinstr hlead.2
  rw [River.survivor?_eq h.within.sound.proper houter, River.survivor?_eq h.without.sound.proper hinstr,
    hled, h.tiles]
  by_cases hoff : plain.runsOff salmon
  · by_cases hfinish : plain.tiles.shows (plain.led salmon instr).cell .finish
    · simp [hoff, hfinish, Salmon.atEnd]
    · simp [hoff, hfinish, Salmon.atEnd]
  · by_cases hfinish : plain.tiles.shows (plain.led salmon instr).cell .finish
    · simp [hoff, hfinish]
    · simp [hoff, hfinish]

/-- A salmon at the jump rests for a tick, and is then where it would have been without it. -/
theorem survivor?_atEnd (h : Encircled plain outer one) (hge : 0 ≤ salmon.pc)
    (hlt : salmon.pc < plain.program.size) (hoff : plain.runsOff salmon = true)
    (hafter : plain.survivor? salmon = some after) :
    outer.survivor? (after.atEnd plain.program.size) = some after := by
  obtain ⟨instr, hinstr⟩ := Program.at?_of_lt hge hlt
  rw [River.survivor?_eq h.without.sound.proper hinstr] at hafter
  rw [runsOff_eq h.without.sound.proper hinstr, decide_eq_true_iff] at hoff
  split at hafter
  · cases hafter
  · rename_i hfinish
    cases hafter
    have hpc : (plain.led salmon instr).pc = 0 := if_neg (Int.not_lt.2 hoff)
    have hwrap : outer.program.wrap 0 = 0 := by
      unfold Program.wrap
      split <;> rfl
    have hback : outer.led ((plain.led salmon instr).atEnd plain.program.size) (.goto 0) =
        plain.led salmon instr :=
      congrArg (Salmon.mk (plain.led salmon instr).id (plain.led salmon instr).cell)
        (hwrap.trans hpc.symm)
    rw [River.survivor?_eq h.within.sound.proper (h.at?_end), hback, h.tiles, if_neg hfinish]

/-- If the salmon is where it would be without the loop, then after the next tick it is, too,
but for its address when a pass ends. -/
theorem next (h : Encircled plain outer one) {late : Nat}
    (hsame : outer.salmonAfter? one.id late = plain.salmonAfter? one.id count) :
    outer.salmonAfter? one.id (late + 1) = (plain.salmonAfter? one.id (count + 1)).map
      (if plain.endsPass one.id (count + 1) then Salmon.atEnd plain.program.size else id) := by
  rw [h.within.salmonAfter?_succ, hsame, h.without.salmonAfter?_succ, endsPass]
  cases hnow : plain.salmonAfter? one.id count with
  | none => rfl
  | some now =>
      obtain ⟨hge, hlt⟩ := h.without.bounds hnow
      simpa using h.survivor?_eq hge hlt

/-- If a pass ends, the salmon is two ticks later where it would be one tick later without
the loop. -/
theorem next_of_endsPass (h : Encircled plain outer one) {late : Nat}
    (hsame : outer.salmonAfter? one.id late = plain.salmonAfter? one.id count)
    (hends : plain.endsPass one.id (count + 1) = true) :
    outer.salmonAfter? one.id (late + 2) = plain.salmonAfter? one.id (count + 1) := by
  have hnext := h.next hsame
  rw [hends, if_pos rfl] at hnext
  rw [h.within.salmonAfter?_succ, hnext]
  cases hafter : plain.salmonAfter? one.id (count + 1) with
  | none => rfl
  | some after =>
      rw [h.without.salmonAfter?_succ] at hafter
      obtain ⟨now, hnow, hsurvives⟩ := Option.bind_eq_some_iff.1 hafter
      obtain ⟨hge, hlt⟩ := h.without.bounds hnow
      rw [endsPass, hnow] at hends
      exact h.survivor?_atEnd hge hlt hends hsurvives

/-- With the loop the salmon is late by the number of passes that have ended. -/
theorem delayed (h : Encircled plain outer one) (count : Nat) :
    outer.salmonAfter? one.id (count + plain.passesBy one.id count) =
      plain.salmonAfter? one.id count := by
  induction count with
  | zero => simp [passesBy_zero, h.within.salmonAfter?_zero, h.without.salmonAfter?_zero]
  | succ count ih =>
      rw [passesBy_succ, Nat.add_right_comm, ← Nat.add_assoc]
      by_cases hends : plain.endsPass one.id (count + 1)
      · rw [if_pos hends]
        exact h.next_of_endsPass ih hends
      · simpa [hends] using h.next ih

/-- With the loop the salmon goes the same way, and rests when a pass has ended. -/
theorem trail_eq (h : Encircled plain outer one) (count : Nat) :
    outer.trail one.id (count + plain.passesBy one.id count) =
      (List.range (count + 1)).flatMap (plain.stay one.id) := by
  induction count with
  | zero =>
      have hfirst := h.delayed 0
      rw [passesBy_zero, Nat.zero_add] at hfirst ⊢
      cases hnow : plain.salmonAfter? one.id 0 <;> simp [trail, stay, endsPass, hfirst, hnow]
  | succ count ih =>
      have hsame := h.delayed count
      have hnext := h.next hsame
      rw [List.range_succ, List.flatMap_append, ← ih, passesBy_succ]
      by_cases hends : plain.endsPass one.id (count + 1)
      · have hlast := h.next_of_endsPass hsame hends
        have htick : count + 1 + (plain.passesBy one.id count + 1) =
          count + plain.passesBy one.id count + 1 + 1 := by omega
        rw [if_pos hends, htick, trail_succ, trail_succ, hlast, hnext, List.append_assoc]
        congr 1
        cases hafter : plain.salmonAfter? one.id (count + 1) with
        | none => simp [stay, hafter]
        | some after => simp [stay, hafter, hends, Salmon.atEnd]
      · have htick : count + 1 + (plain.passesBy one.id count + 0) =
          count + plain.passesBy one.id count + 1 := by omega
        rw [if_neg hends, htick, trail_succ, hnext]
        congr 1
        cases hafter : plain.salmonAfter? one.id (count + 1) with
        | none => simp [stay, hafter]
        | some after => simp [stay, hafter, hends]

theorem finishesAt (h : Encircled plain outer one) {tick : Nat}
    (hfinishes : plain.FinishesAt one.id tick) :
    outer.FinishesAt one.id (tick + plain.passesBy one.id (tick - 1)) := by
  obtain ⟨before, rfl, hleft, hgone⟩ := hfinishes
  have hsame := h.delayed before
  rw [Nat.add_sub_cancel, Nat.add_right_comm]
  refine ⟨before + plain.passesBy one.id before, rfl, ?_, ?_⟩
  · rw [hsame]
    exact hleft
  · rw [h.next hsame, hgone, Option.map_none]

theorem exists_finishesAt_iff (h : Encircled plain outer one) :
    (∃ tick, plain.FinishesAt one.id tick) ↔ ∃ tick, outer.FinishesAt one.id tick := by
  rw [h.without.exists_finishesAt_iff, h.within.exists_finishesAt_iff]
  constructor
  · rintro ⟨tick, hgone⟩
    exact ⟨_, (h.delayed tick).trans hgone⟩
  · rintro ⟨tick, hgone⟩
    refine ⟨tick, ?_⟩
    rw [← h.delayed tick]
    exact h.within.gone_of_le (Nat.le_add_right tick _) hgone

end Encircled

end River

theorem Program.ofStatements_loop (stmts : List Stmt) :
    ofStatements [.loop stmts] = (ofStatements stmts).push (.goto 0) := by
  apply Array.toList_inj.1
  rw [Array.toList_push]
  change Stmt.codeAll 0 [.loop stmts] = Stmt.codeAll 0 stmts ++ [.goto 0]
  simp

/-- A loop can be written around every program that leaves room for it. -/
theorem parse_loop {source : List Char} {stmts : List Stmt} (hparse : parse source = .ok stmts)
    (hnesting : Stmt.nestingAll stmts < maxNesting) :
    parse ("loop \x7b".toList ++ source ++ "\x7d".toList) = .ok [.loop stmts] := by
  rw [parse_eq_ok_iff, Reader.readFrom_eq_ok_iff] at hparse ⊢
  obtain ⟨⟨hgap, htext⟩, -⟩ := hparse
  have hblank : Blanks [' '] := blanks_cons rfl blanks_nil
  have hloop := (Derives.loop hblank (Derives.block hgap htext)).cons_program Derives.nil_program
  refine ⟨by simpa using hloop, ?_⟩
  simp only [Stmt.nestingAll, Stmt.nesting]
  omega

namespace River

theorem encircled_fresh {level : Level} {stmts : List Stmt} (hproper : level.tiles.Proper)
    (hsize : 0 < (Program.ofStatements stmts).size) {id : Nat} (hid : id < level.starts.length) :
    Encircled (fresh level (Program.ofStatements stmts))
      (fresh level (Program.ofStatements [.loop stmts])) ⟨id, level.starts[id], 0⟩ where
  tiles := rfl
  program := Program.ofStatements_loop stmts
  without := carries_fresh hproper hsize (Program.closed_ofStatements stmts) hid
  within := carries_fresh hproper (Program.size_ofStatements_pos (List.cons_ne_nil _ _))
    (Program.closed_ofStatements _) hid

/-- If a loop is written around a program whose blocks leave room for it, both programs can be
loaded and no tick of either river fails.  With the loop every salmon goes through the same
cells one after the other, and stays in each for one tick, but for two where a pass over the
program has ended.  It finishes with the loop exactly if it finishes without, and then later by
the number of passes that have ended before. -/
theorem outer_loop_delays (level : Level) (source : List Char) (stmts : List Stmt)
    (program : Program) (hproper : level.tiles.Proper) (hparse : parse source = .ok stmts)
    (hnesting : Stmt.nestingAll stmts ≤ 63) (hcompile : Program.ofText source = .ok program)
    (hempty : program.isEmpty = false) :
    ∃ (looped : Program) (plain outer : River),
      Program.ofText ("loop \x7b".toList ++ source ++ "\x7d".toList) = .ok looped ∧
      load level program = .ok plain ∧ load level looped = .ok outer ∧
      (∀ count, ∃ now later, plain.ticks count = .ok now ∧ outer.ticks count = .ok later) ∧
      ∀ id : Nat, id < level.starts.length →
        (∀ count, outer.trail id (count + plain.passesBy id count) =
          (List.range (count + 1)).flatMap (plain.stay id)) ∧
        ((∃ tick, plain.FinishesAt id tick) ↔ ∃ tick, outer.FinishesAt id tick) ∧
        ∀ tick, plain.FinishesAt id tick →
          outer.FinishesAt id (tick + plain.passesBy id (tick - 1)) := by
  obtain ⟨tree, htree, rfl⟩ := Program.ofText_eq_ok_iff.1 hcompile
  cases hparse.symm.trans htree
  have hsize := Program.isEmpty_eq_false_iff.1 hempty
  have hlooped := Program.ofText_eq_ok_iff.2
    ⟨_, parse_loop hparse (Nat.lt_succ_of_le hnesting), rfl⟩
  have hlong : 0 < (Program.ofStatements [.loop stmts]).size :=
    Program.size_ofStatements_pos (List.cons_ne_nil _ _)
  have hclosed := Program.closed_ofStatements stmts
  have houter := Program.closed_ofStatements [.loop stmts]
  refine ⟨_, _, _, hlooped, load_eq_fresh hsize hclosed level, load_eq_fresh hlong houter level,
    fun count => ⟨_, _, (sound_fresh hproper hsize hclosed).ticks_eq count,
      (sound_fresh hproper hlong houter).ticks_eq count⟩, ?_⟩
  intro id hid
  have hboth := encircled_fresh hproper hsize hid
  exact ⟨hboth.trail_eq, hboth.exists_finishesAt_iff, fun tick => hboth.finishesAt⟩

/-- In a pond with a second finish the third salmon needs two moves to get there, and with the
loop one tick more for the jump between them. -/
theorem outer_loop_delays_pond :
    (Level.pond.setTile ⟨3, 5⟩ .finish).tiles.Proper ∧
      parse "move left;".toList = .ok [.move .left] ∧ Stmt.nestingAll [.move .left] ≤ 63 ∧
      Program.ofText "move left;".toList = .ok #[.move .left] ∧
      (#[.move .left] : Program).isEmpty = false ∧
      ∃ (looped : Program) (plain outer : River),
        Program.ofText "loop \x7bmove left;\x7d".toList = .ok looped ∧
        load (Level.pond.setTile ⟨3, 5⟩ .finish) #[.move .left] = .ok plain ∧
        load (Level.pond.setTile ⟨3, 5⟩ .finish) looped = .ok outer ∧
        plain.FinishesAt 2 2 ∧ outer.FinishesAt 2 3 := by
  have hproper : (Level.pond.setTile ⟨3, 5⟩ .finish).tiles.Proper :=
    Level.pond_proper.set ⟨3, 5⟩ .finish
  have hderives : Derives (.program [.move .left]) "move left;".toList :=
    (Derives.move .left blanks_nil).cons_program Derives.nil_program
  have hnesting : Stmt.nestingAll [.move .left] ≤ 63 := by simp [Stmt.nestingAll, Stmt.nesting]
  have hparse : parse "move left;".toList = .ok [.move .left] :=
    parse_eq_ok_iff.2 (Reader.readFrom_eq_ok_iff.2 ⟨hderives, Nat.le_succ_of_le hnesting⟩)
  have hcompile : Program.ofText "move left;".toList = .ok #[.move .left] :=
    Program.ofText_eq_ok_iff.2 ⟨_, hparse, rfl⟩
  obtain ⟨looped, plain, outer, hlooped, hplain, houter, -, hsalmon⟩ :=
    outer_loop_delays _ _ _ _ hproper hparse hnesting hcompile rfl
  cases (load_eq_fresh (by decide) (by decide) _).symm.trans hplain
  obtain ⟨-, -, hdelayed⟩ := hsalmon 2 (by decide)
  have hfinishes : (fresh (Level.pond.setTile ⟨3, 5⟩ .finish) #[.move .left]).FinishesAt 2 2 :=
    ⟨1, rfl, by decide +kernel, by decide +kernel⟩
  have hpasses :
      (fresh (Level.pond.setTile ⟨3, 5⟩ .finish) #[.move .left]).passesBy (2 : Nat) (2 - 1) = 1 := by
    decide +kernel
  have hlate := hdelayed 2 hfinishes
  rw [hpasses] at hlate
  exact ⟨hproper, hparse, hnesting, hcompile, rfl, looped, _, outer, hlooped, hplain, houter,
    hfinishes, hlate⟩

end River

end RiverPuzzle
