import RiverPuzzle.River.Tick

/-!
# Proper maps

On a map whose bytes all stand for tiles no look fails, so moving, sensing and a
whole turn are total.  The main statement gives the turn of a salmon from its
instruction alone.
-/

namespace RiverPuzzle

namespace Tile

theorem ofCode?_eq_some_iff {code : UInt8} {tile : Tile} :
    ofCode? code = some tile ↔ code = tile.code := by
  constructor
  · intro h
    unfold ofCode? at h
    split at h
    · cases h
      assumption
    · split at h
      · cases h
        assumption
      · split at h
        · cases h
          assumption
        · cases h
  · rintro rfl
    exact ofCode?_code tile

end Tile

namespace TileMap

variable {tiles : TileMap} {cell : Cell} {tile : Tile}

/-- The cell is made of the tile. -/
def shows (tiles : TileMap) (cell : Cell) (tile : Tile) : Bool :=
  tiles.code cell = tile.code

/-- The probe holds, seen from the cell.  Beyond the edge there is rock. -/
def senses (tiles : TileMap) (probe : Probe) (cell : Cell) : Bool :=
  match cell.neighbor? probe.direction with
  | none => probe.tile = .rock
  | some next => tiles.shows next probe.tile

/-- Where a move leads: to the neighbour, unless that is off the board or rock. -/
def advance (tiles : TileMap) (cell : Cell) (direction : Direction) : Cell :=
  match cell.neighbor? direction with
  | none => cell
  | some next => if tiles.shows next .rock then cell else next

theorem read_eq_ok_iff : tiles.read cell = .ok tile ↔ tiles.shows cell tile = true := by
  rw [shows, decide_eq_true_iff, ← Tile.ofCode?_eq_some_iff, read]
  cases Tile.ofCode? (tiles.code cell) <;> simp

theorem code_of_read (h : tiles.read cell = .ok tile) : tiles.code cell = tile.code := by
  simpa [shows] using read_eq_ok_iff.1 h

theorem shows_of_read {other : Tile} (h : tiles.read cell = .ok tile) :
    tiles.shows cell other = decide (tile = other) := by
  rw [shows, code_of_read h]
  cases tile <;> cases other <;> rfl

theorem Proper.set (h : tiles.Proper) (cell : Cell) (tile : Tile) :
    (tiles.set cell tile).Proper := by
  intro other
  by_cases heq : cell = other
  · refine ⟨tile, read_eq_ok_iff.2 ?_⟩
    simp [shows, code_set, heq]
  · obtain ⟨old, hold⟩ := h other
    refine ⟨old, read_eq_ok_iff.2 ?_⟩
    simpa [shows, code_set, heq] using read_eq_ok_iff.1 hold

theorem proper_allEmpty : allEmpty.Proper := by
  intro cell
  refine ⟨.empty, read_eq_ok_iff.2 ?_⟩
  simp [shows, allEmpty, code_ofFn]

end TileMap

/-- Open water with a finish at its edge, two salmon right beside it and one further off. -/
def Level.pond : Level :=
  ⟨1, TileMap.allEmpty.set ⟨0, 3⟩ .finish, [⟨1, 3⟩, ⟨1, 3⟩, ⟨5, 5⟩]⟩

theorem Level.pond_proper : Level.pond.tiles.Proper :=
  TileMap.proper_allEmpty.set ⟨0, 3⟩ .finish

/-- Where an instruction takes a salmon, and the address it leads to, on a map
whose bytes all stand for tiles. -/
def Instr.lead (tiles : TileMap) (cell : Cell) (pc : Int) : Instr → Cell × Int
  | .move direction => (tiles.advance cell direction, pc + 1)
  | .goto address => (cell, address)
  | .branch probe otherwise => (cell, if tiles.senses probe cell then pc + 1 else otherwise)
  | .idle => (cell, pc + 1)

namespace River

variable {river : River}

theorem sees_eq (hproper : river.tiles.Proper) (probe : Probe) (cell : Cell) :
    river.sees probe cell = .ok (river.tiles.senses probe cell) := by
  unfold sees TileMap.senses
  cases cell.neighbor? probe.direction with
  | none => rfl
  | some next =>
      obtain ⟨tile, htile⟩ := hproper next
      simp [htile, TileMap.shows_of_read htile, Except.map]

theorem follow_eq (hproper : river.tiles.Proper) (salmon : Salmon) (instr : Instr) :
    river.follow salmon instr = .ok (instr.lead river.tiles salmon.cell salmon.pc) := by
  cases instr with
  | move direction =>
      obtain ⟨tile, htile⟩ := hproper (salmon.cell.step direction)
      simp only [follow, Instr.lead, htile, Except.map, TileMap.advance]
      -- At the edge the tile that is read is the one under the salmon, and it stays either way.
      cases hnext : salmon.cell.neighbor? direction with
      | none => simp [Cell.step, hnext]
      | some next =>
          simp only [Cell.step, hnext, Option.getD_some] at htile ⊢
          simp [TileMap.shows_of_read htile]
  | goto address => rfl
  | branch probe otherwise => simp [follow, Instr.lead, sees_eq hproper, Except.map]
  | idle => rfl

/-- The salmon after the instruction, on a map whose bytes all stand for tiles. -/
def led (river : River) (salmon : Salmon) (instr : Instr) : Salmon :=
  let (cell, next) := instr.lead river.tiles salmon.cell salmon.pc
  ⟨salmon.id, cell, river.program.wrap next⟩

/-- On a proper map a turn at an address with an instruction never fails, and it
is over for the salmon exactly when the instruction leaves it on a finish. -/
theorem turn_eq (hproper : river.tiles.Proper) {salmon : Salmon} {instr : Instr}
    (hinstr : river.program.at? salmon.pc = some instr) :
    river.turn salmon =
      if river.tiles.shows (river.led salmon instr).cell .finish
      then .arrives (river.led salmon instr) else .swims (river.led salmon instr) := by
  have hobey : river.obey salmon = .ok (river.led salmon instr) := by
    simp [obey, Program.fetch, hinstr, follow_eq hproper, led]
  obtain ⟨tile, htile⟩ := hproper (river.led salmon instr).cell
  rw [TileMap.shows_of_read htile]
  cases tile <;> simp [turn, hobey, htile]

end River

end RiverPuzzle
