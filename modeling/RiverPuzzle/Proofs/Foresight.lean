import RiverPuzzle.Proofs.Snags

/-!
# Foresight

A salmon looks ahead in one way and moves in another, and at the edge of the board the two ask
for different cells.  This module says what lies ahead of a cell and shows that both ways agree
on it.  The main statement: the one tile that a probe sees ahead decides what the next tick
makes of a salmon that is about to move there, whatever the others do.
-/

namespace RiverPuzzle

/-- The tile ahead of a cell.  Beyond the edge there is rock. -/
def TileMap.ahead (tiles : TileMap) (cell : Cell) (direction : Direction) :
    Except UnknownTile Tile :=
  match cell.neighbor? direction with
  | none => .ok .rock
  | some next => tiles.read next

/-- A tick of the river goes well.  It keeps the given salmon, or none, between those that it
leaves of the salmon before and of those behind, which fare as they would by themselves. -/
def River.TickKeeps (river : River) (before : List Salmon) (kept : Option Salmon)
    (after : List Salmon) : Prop :=
  ∃ left right,
    { river with salmon := before }.tick = .ok { river with salmon := left } ∧
    { river with salmon := after }.tick = .ok { river with salmon := right } ∧
    river.tick = .ok { river with salmon := left ++ kept.toList ++ right }

namespace TileMap

variable {tiles : TileMap} {cell : Cell} {direction : Direction} {tile : Tile}

theorem Proper.exists_ahead (hproper : tiles.Proper) (cell : Cell) (direction : Direction) :
    ∃ tile, tiles.ahead cell direction = .ok tile := by
  unfold ahead
  cases cell.neighbor? direction with
  | none => exact ⟨.rock, rfl⟩
  | some next => exact hproper next

/-- A move at rock or at the edge leads nowhere. -/
theorem advance_of_rock (h : tiles.ahead cell direction = .ok .rock) :
    tiles.advance cell direction = cell := by
  unfold ahead at h
  unfold advance
  cases hnext : cell.neighbor? direction with
  | none => rfl
  | some next =>
      rw [hnext] at h
      exact if_pos (read_eq_ok_iff.1 h)

/-- A move at anything else leads to the neighbour, and the tile ahead is that of the
neighbour. -/
theorem advance_of_ne_rock (h : tiles.ahead cell direction = .ok tile) (hne : tile ≠ .rock) :
    ∃ next, cell.neighbor? direction = some next ∧ tiles.advance cell direction = next ∧
      tiles.read next = .ok tile := by
  unfold ahead at h
  unfold advance
  cases hnext : cell.neighbor? direction with
  | none =>
      rw [hnext] at h
      cases h
      exact absurd rfl hne
  | some next =>
      rw [hnext] at h
      refine ⟨next, rfl, if_neg ?_, h⟩
      rw [shows_of_read h]
      simpa using hne

end TileMap

namespace River

variable {river : River} {before after : List Salmon} {one : Salmon} {direction : Direction}
  {tile : Tile}

/-- On any map, a probe compares its tile with the one ahead. -/
theorem sees_eq_map_ahead (river : River) (probe : Probe) (cell : Cell) :
    river.sees probe cell =
      (river.tiles.ahead cell probe.direction).map fun tile => decide (probe.tile = tile) := by
  unfold sees TileMap.ahead
  cases cell.neighbor? probe.direction with
  | none => rfl
  | some next => simp only [eq_comm]

/-- Nobody is stuck on a proper map, as long as all the addresses are those of the program. -/
theorem flows_of_spans {crowd : List Salmon} (hproper : river.tiles.Proper)
    (hspans : ∀ salmon ∈ crowd, river.program.Spans salmon.pc) : river.Flows crowd := by
  intro salmon hsalmon left fault hturn
  obtain ⟨instr, hinstr⟩ : ∃ instr, river.program.at? salmon.pc = some instr := by
    apply Option.ne_none_iff_exists'.1
    intro hnone
    exact Program.at?_eq_none_iff.1 hnone (hspans salmon hsalmon)
  rw [turn_eq hproper hinstr] at hturn
  split at hturn <;> cases hturn

/-- Each group of salmon in a river fares as it would by itself. -/
theorem tick_of_flows (crowd : List Salmon) (hflows : river.Flows crowd) :
    { river with salmon := crowd }.tick =
      .ok { river with salmon := crowd.filterMap river.survivor? } := by
  have hturn : ∀ salmon, { river with salmon := crowd }.turn salmon = river.turn salmon :=
    turn_congr rfl rfl
  have hsame : { river with salmon := crowd }.survivor? = river.survivor? := by
    funext salmon
    rw [survivor?, hturn, survivor?]
  rw [tick_eq_drift, drift, hsame]
  intro salmon hsalmon left fault
  rw [hturn]
  exact hflows salmon hsalmon left fault

theorem tickKeeps_survivor? (hflows : river.Flows river.salmon)
    (hsalmon : river.salmon = before ++ one :: after) :
    river.TickKeeps before (river.survivor? one) after := by
  rw [hsalmon] at hflows
  have hbefore : river.Flows before :=
    fun other hother => hflows other (List.mem_append_left _ hother)
  have hafter : river.Flows after :=
    fun other hother => hflows other (List.mem_append_right _ (List.mem_cons_of_mem one hother))
  refine ⟨_, _, tick_of_flows before hbefore, tick_of_flows after hafter, ?_⟩
  have hwhole := tick_of_flows _ hflows
  rw [← hsalmon] at hwhole
  rw [hwhole, hsalmon, List.filterMap_append, List.append_assoc]
  cases hone : river.survivor? one with
  | none => rw [List.filterMap_cons_none hone, Option.toList_none, List.nil_append]
  | some moved => rw [List.filterMap_cons_some hone, Option.toList_some, List.singleton_append]

/-- What is left of a salmon that moves is where its move leads, unless that is a finish. -/
theorem survivor?_of_move (hproper : river.tiles.Proper)
    (hmove : river.program.at? one.pc = some (.move direction)) :
    river.survivor? one =
      if river.tiles.shows (river.tiles.advance one.cell direction) .finish then none
      else some ⟨one.id, river.tiles.advance one.cell direction,
        river.program.wrap (one.pc + 1)⟩ := by
  have hled : river.led one (.move direction) = ⟨one.id,
      river.tiles.advance one.cell direction, river.program.wrap (one.pc + 1)⟩ := rfl
  rw [survivor?_eq hproper hmove, hled]

/-- In a river whose bytes all stand for tiles and whose salmon are all inside the program, a
salmon that is about to move sees exactly one tile ahead.  If that is rock, it stays in its cell,
and it is gone after the tick exactly if that cell is a finish.  If it is open water, it is in
the neighbouring cell after the tick, and if it is a finish, it is gone.  The other salmon have
no say in this, and fare as they would without it. -/
theorem sensing_predicts_moving (hproper : river.tiles.Proper)
    (hinside : ∀ salmon ∈ river.salmon, river.program.Spans salmon.pc)
    (hsalmon : river.salmon = before ++ one :: after)
    (hmove : river.program.at? one.pc = some (.move direction)) :
    ∃ seen kept,
      (∀ tile, river.sees ⟨direction, tile⟩ one.cell = .ok (decide (tile = seen))) ∧
      river.TickKeeps before kept after ∧
      (seen = .rock →
        (kept = none ↔ river.tiles.read one.cell = .ok .finish) ∧
        ∀ moved ∈ kept, moved = ⟨one.id, one.cell, river.program.wrap (one.pc + 1)⟩) ∧
      (seen = .empty → ∃ next, one.cell.neighbor? direction = some next ∧
        kept = some ⟨one.id, next, river.program.wrap (one.pc + 1)⟩) ∧
      (seen = .finish → kept = none) := by
  obtain ⟨seen, hseen⟩ := hproper.exists_ahead one.cell direction
  have hkept := survivor?_of_move hproper hmove
  refine ⟨seen, river.survivor? one, fun tile => ?_,
    tickKeeps_survivor? (flows_of_spans hproper hinside) hsalmon, ?_, ?_, ?_⟩
  · rw [sees_eq_map_ahead, hseen]
    rfl
  · rintro rfl
    rw [TileMap.advance_of_rock hseen] at hkept
    rw [hkept, TileMap.read_eq_ok_iff]
    cases river.tiles.shows one.cell .finish with
    | true => exact ⟨iff_of_true rfl rfl, fun moved hmoved => nomatch hmoved⟩
    | false => exact ⟨iff_of_false nofun nofun, fun moved hmoved => (Option.some.inj hmoved).symm⟩
  · rintro rfl
    obtain ⟨next, hnext, hadvance, hread⟩ := TileMap.advance_of_ne_rock hseen (by decide)
    rw [hadvance, TileMap.shows_of_read hread] at hkept
    exact ⟨next, hnext, hkept⟩
  · rintro rfl
    obtain ⟨next, hnext, hadvance, hread⟩ := TileMap.advance_of_ne_rock hseen (by decide)
    rw [hadvance, TileMap.shows_of_read hread] at hkept
    exact hkept

/-- In the pond the second salmon sees the finish and is gone after a tick, and the third one
swims on through open water. -/
theorem sensing_predicts_moving_pond :
    ∃ (river : River) (one two three : Salmon),
      river = fresh Level.pond #[.move .left] ∧ river.salmon = [one, two, three] ∧
      river.sees ⟨.left, .finish⟩ two.cell = .ok true ∧ river.TickKeeps [one] none [three] ∧
      river.sees ⟨.left, .empty⟩ three.cell = .ok true ∧
      ∃ next moved, three.cell.neighbor? .left = some next ∧ moved.cell = next ∧
        river.TickKeeps [one, two] (some moved) [] := by
  let river := fresh Level.pond #[.move .left]
  have hinside : ∀ salmon ∈ river.salmon, river.program.Spans salmon.pc := by
    unfold Program.Spans
    decide
  obtain ⟨one, two, three, hsalmon, htwo, hthree⟩ : ∃ one two three,
      river.salmon = [one, two, three] ∧
      (two.pc = 0 ∧ river.sees ⟨.left, .finish⟩ two.cell = .ok true) ∧
      three.pc = 0 ∧ river.sees ⟨.left, .empty⟩ three.cell = .ok true :=
    ⟨⟨0, ⟨1, 3⟩, 0⟩, ⟨1, ⟨1, 3⟩, 0⟩, ⟨2, ⟨5, 5⟩, 0⟩, rfl, ⟨rfl, by decide⟩, rfl, by decide⟩
  have hmove : river.program.at? 0 = some (.move .left) := rfl
  obtain ⟨seen, kept, hsees, hkeeps, -, -, hgone⟩ :=
    sensing_predicts_moving Level.pond_proper hinside
      (show river.salmon = [one] ++ two :: [three] from hsalmon) (htwo.1 ▸ hmove)
  obtain ⟨water, still, hlooks, hstays, -, hswims, -⟩ :=
    sensing_predicts_moving Level.pond_proper hinside
      (show river.salmon = [one, two] ++ three :: [] from hsalmon) (hthree.1 ▸ hmove)
  have hseen : Tile.finish = seen :=
    of_decide_eq_true (Except.ok.inj ((hsees .finish).symm.trans htwo.2))
  have hwater : Tile.empty = water :=
    of_decide_eq_true (Except.ok.inj ((hlooks .empty).symm.trans hthree.2))
  obtain ⟨next, hnext, rfl⟩ := hswims hwater.symm
  rw [hgone hseen.symm] at hkeeps
  exact ⟨river, one, two, three, rfl, hsalmon, htwo.2, hkeeps, hthree.2, next, _, hnext, rfl,
    hstays⟩

end River

end RiverPuzzle
