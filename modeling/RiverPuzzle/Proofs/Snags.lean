import Mathlib.Data.List.Forall2
import RiverPuzzle.Proofs.Drift
import RiverPuzzle.Result

/-!
# Snags

On a map with bytes that stand for no tile, or with a salmon whose address is none of the
program, a tick can fail.  This module says which salmon hits a snag and what that leaves of
it: a salmon that fails at its instruction or at the cell ahead is as it was, and one that
fails only at the cell below it has followed its instruction to the end.  The main statement
says what a failing tick leaves behind: the salmon before the first snag have moved, those
behind it have not, and nobody is gone.
-/

namespace RiverPuzzle

/-- The address is one of the program; a negative one counts from the end. -/
def Program.Spans (program : Program) (address : Int) : Prop :=
  -(program.size : Int) ≤ address ∧ address < program.size

/-- The cell whose tile an instruction asks for, if it asks for one. -/
def Instr.ahead? (cell : Cell) : Instr → Option Cell
  | .move direction => some (cell.step direction)
  | .goto _ => none
  | .branch probe _ => cell.neighbor? probe.direction
  | .idle => none

/-- What stops the turn of a salmon, and what the turn has made of the salmon by then. -/
inductive River.Snags (river : River) (salmon : Salmon) : Salmon → TickFault → Prop
  | astray (hout : ¬river.program.Spans salmon.pc) :
      Snags river salmon salmon
        (if FitsWord salmon.pc then .noInstruction else .addressTooLarge)
  | ahead {instr : Instr} {cell : Cell} (hinstr : river.program.at? salmon.pc = some instr)
      (hahead : instr.ahead? salmon.cell = some cell) (hcode : 2 < river.tiles.code cell) :
      Snags river salmon salmon (.unknownTile ⟨river.tiles.code cell⟩)
  | below {moved : Salmon} (hobeys : river.obey salmon = .ok moved)
      (hcode : 2 < river.tiles.code moved.cell) :
      Snags river salmon moved (.unknownTile ⟨river.tiles.code moved.cell⟩)

namespace Tile

/-- The bytes above two stand for no tile. -/
theorem ofCode?_eq_none_iff {code : UInt8} : ofCode? code = none ↔ 2 < code := by
  unfold ofCode?
  constructor
  · intro h
    split at h
    · cases h
    · split at h
      · cases h
      · split at h
        · cases h
        · grind
  · intro hcode
    rw [if_neg (by grind), if_neg (by grind), if_neg (by grind)]

end Tile

theorem TileMap.read_eq_error_iff {tiles : TileMap} {cell : Cell} {fault : UnknownTile} :
    tiles.read cell = .error fault ↔ 2 < tiles.code cell ∧ fault = ⟨tiles.code cell⟩ := by
  rw [← Tile.ofCode?_eq_none_iff, read]
  cases Tile.ofCode? (tiles.code cell) <;> simp [eq_comm]

namespace Program

variable {program : Program} {address : Int}

theorem at?_eq_none_iff : program.at? address = none ↔ ¬program.Spans address := by
  unfold at? Spans
  split
  · rw [Array.getElem?_eq_none_iff]
    omega
  · split
    · rw [Array.getElem?_eq_none_iff]
      omega
    · simp only [true_iff]
      omega

theorem fetch_eq_error_iff {fault : TickFault} :
    program.fetch address = .error fault ↔ ¬program.Spans address ∧
      fault = if FitsWord address then .noInstruction else .addressTooLarge := by
  rw [← at?_eq_none_iff, fetch]
  cases program.at? address <;> simp [eq_comm]

theorem fetch_eq_ok_iff {instr : Instr} :
    program.fetch address = .ok instr ↔ program.at? address = some instr := by
  rw [fetch]
  cases program.at? address <;> simp

end Program

namespace River

variable {river : River} {salmon left : Salmon} {fault : TickFault}

theorem sees_eq_error_iff {probe : Probe} {cell : Cell} {unknown : UnknownTile} :
    river.sees probe cell = .error unknown ↔
      ∃ next, cell.neighbor? probe.direction = some next ∧
        river.tiles.read next = .error unknown := by
  unfold sees
  cases cell.neighbor? probe.direction with
  | none => simp
  | some next => simp [map_eq_error_iff]

/-- An instruction fails at the cell ahead of the salmon, or not at all. -/
theorem follow_eq_error_iff {instr : Instr} {unknown : UnknownTile} :
    river.follow salmon instr = .error unknown ↔
      ∃ cell, instr.ahead? salmon.cell = some cell ∧ river.tiles.read cell = .error unknown := by
  cases instr with
  | move direction => simp [follow, Instr.ahead?, map_eq_error_iff]
  | goto address => simp [follow, Instr.ahead?]
  | branch probe otherwise => simp [follow, Instr.ahead?, map_eq_error_iff, sees_eq_error_iff]
  | idle => simp [follow, Instr.ahead?]

theorem obey_eq_error_iff :
    river.obey salmon = .error fault ↔
      (¬river.program.Spans salmon.pc ∧
        fault = if FitsWord salmon.pc then .noInstruction else .addressTooLarge) ∨
      ∃ instr, river.program.at? salmon.pc = some instr ∧
        ∃ unknown, river.follow salmon instr = .error unknown ∧ fault = .unknownTile unknown := by
  rw [← Program.fetch_eq_error_iff]
  simp only [← Program.fetch_eq_ok_iff]
  unfold obey
  cases river.program.fetch salmon.pc with
  | error stop => simp
  | ok instr =>
      simp only [reduceCtorEq, Except.ok.injEq, exists_eq_left', false_or]
      cases river.follow salmon instr <;> simp [eq_comm]

theorem obey_of_ahead {instr : Instr} {cell : Cell}
    (hinstr : river.program.at? salmon.pc = some instr)
    (hahead : instr.ahead? salmon.cell = some cell) (hcode : 2 < river.tiles.code cell) :
    river.obey salmon = .error (.unknownTile ⟨river.tiles.code cell⟩) := by
  have hread := TileMap.read_eq_error_iff.2 ⟨hcode, rfl⟩
  have hfollow := follow_eq_error_iff.2 ⟨cell, hahead, hread⟩
  exact obey_eq_error_iff.2 (.inr ⟨instr, hinstr, _, hfollow, rfl⟩)

theorem Snags.of_obey (h : river.obey salmon = .error fault) : river.Snags salmon salmon fault := by
  rcases obey_eq_error_iff.1 h with ⟨hout, rfl⟩ | ⟨instr, hinstr, unknown, hfollow, rfl⟩
  · exact .astray hout
  · obtain ⟨cell, hahead, hread⟩ := follow_eq_error_iff.1 hfollow
    obtain ⟨hcode, rfl⟩ := TileMap.read_eq_error_iff.1 hread
    exact .ahead hinstr hahead hcode

/-- A turn fails exactly with a snag, and leaves the salmon as the snag does. -/
theorem turn_eq_stuck_iff :
    river.turn salmon = .stuck left fault ↔ river.Snags salmon left fault := by
  constructor
  · intro h
    unfold turn at h
    split at h
    · rename_i stop hobey
      cases h
      exact .of_obey hobey
    · rename_i moved hobey
      split at h
      · rename_i unknown hread
        cases h
        obtain ⟨hcode, rfl⟩ := TileMap.read_eq_error_iff.1 hread
        exact .below hobey hcode
      · cases h
      · cases h
  · intro h
    unfold turn
    cases h with
    | astray hout => rw [obey_eq_error_iff.2 (.inl ⟨hout, rfl⟩)]
    | ahead hinstr hahead hcode => rw [obey_of_ahead hinstr hahead hcode]
    | below hobeys hcode =>
        have hread := TileMap.read_eq_error_iff.2 ⟨hcode, rfl⟩
        simp only [hobeys, hread]

/-- The turn of these salmon meets no snag. -/
theorem flows_iff {crowd : List Salmon} :
    river.Flows crowd ↔ ∀ one ∈ crowd, ∀ left fault, ¬river.Snags one left fault := by
  simp only [Flows, ne_eq, turn_eq_stuck_iff]

/-- A salmon that meets no snag has followed its instruction after its turn. -/
theorem exists_turn_of_clear (hclear : ∀ left fault, ¬river.Snags salmon left fault) :
    ∃ moved, river.obey salmon = .ok moved ∧
      (river.turn salmon = .swims moved ∨ river.turn salmon = .arrives moved) := by
  cases hobey : river.obey salmon with
  | error fault => exact absurd (.of_obey hobey) (hclear salmon fault)
  | ok moved =>
      refine ⟨moved, rfl, ?_⟩
      simp only [turn, hobey]
      cases hread : river.tiles.read moved.cell with
      | error unknown =>
          obtain ⟨hcode, -⟩ := TileMap.read_eq_error_iff.1 hread
          exact absurd (.below hobey hcode) (hclear _ _)
      | ok tile => cases tile <;> simp

/-- A round goes on behind a salmon that meets no snag. -/
theorem round_cons_of_clear (hclear : ∀ left fault, ¬river.Snags salmon left fault)
    (place : Nat) (rest : List Salmon) :
    ∃ moved, river.obey salmon = .ok moved ∧
      ((∃ result, river.round place (salmon :: rest) = .ok result) ∧
        (∃ result, river.round (place + 1) rest = .ok result) ∨
      ∃ jam, river.round (place + 1) rest = .error jam ∧
        river.round place (salmon :: rest) = .error ⟨moved :: jam.salmon, jam.fault⟩) := by
  obtain ⟨moved, hobey, hturn⟩ := exists_turn_of_clear hclear
  refine ⟨moved, hobey, ?_⟩
  rcases hturn with hturn | hturn
  · cases hround : river.round (place + 1) rest <;> simp [round, hturn, hround]
  · cases hround : river.round (place + 1) rest <;> simp [round, hturn, hround]

/-- A round that fails stops at the first snag. -/
theorem round_eq_error_inv {crowd : List Salmon} {place : Nat} {jam : Jam}
    (h : river.round place crowd = .error jam) :
    ∃ before one after moved left, crowd = before ++ one :: after ∧
      jam.salmon = moved ++ left :: after ∧
      List.Forall₂ (fun earlier now => river.obey earlier = .ok now) before moved ∧
      (∀ earlier ∈ before, ∀ left fault, ¬river.Snags earlier left fault) ∧
      river.Snags one left jam.fault := by
  induction crowd generalizing place jam with
  | nil => cases h
  | cons salmon rest ih =>
      by_cases hsnags : ∃ left fault, river.Snags salmon left fault
      · obtain ⟨left, fault, hsnag⟩ := hsnags
        rw [round, turn_eq_stuck_iff.2 hsnag] at h
        cases h
        exact ⟨[], salmon, rest, [], left, rfl, rfl, .nil, List.forall_mem_nil _, hsnag⟩
      · simp only [not_exists] at hsnags
        obtain ⟨now, hobey, ⟨⟨result, hround⟩, -⟩ | ⟨later, hrest, hround⟩⟩ :=
          round_cons_of_clear hsnags place rest
        · rw [hround] at h
          cases h
        · rw [hround] at h
          cases h
          obtain ⟨before, one, after, moved, left, rfl, hjam, hmoved, hclear, hsnag⟩ := ih hrest
          refine ⟨salmon :: before, one, after, now :: moved, left, rfl, ?_,
            .cons hobey hmoved, List.forall_mem_cons.2 ⟨hsnags, hclear⟩, hsnag⟩
          rw [hjam, List.cons_append]

/-- A round in which a salmon meets a snag fails. -/
theorem clear_of_round {crowd : List Salmon} {place : Nat} {result : List Salmon × List Nat}
    (h : river.round place crowd = .ok result) :
    ∀ one ∈ crowd, ∀ left fault, ¬river.Snags one left fault := by
  induction crowd generalizing place result with
  | nil => exact nofun
  | cons salmon rest ih =>
      by_cases hsnags : ∃ left fault, river.Snags salmon left fault
      · obtain ⟨left, fault, hsnag⟩ := hsnags
        rw [round, turn_eq_stuck_iff.2 hsnag] at h
        cases h
      · simp only [not_exists] at hsnags
        obtain ⟨now, -, ⟨-, later, hrest⟩ | ⟨jam, -, hround⟩⟩ :=
          round_cons_of_clear hsnags place rest
        · exact List.forall_mem_cons.2 ⟨hsnags, ih hrest⟩
        · rw [hround] at h
          cases h

theorem id_of_obey {moved : Salmon} (h : river.obey salmon = .ok moved) : moved.id = salmon.id := by
  unfold obey at h
  split at h
  · cases h
  · split at h
    · cases h
    · cases h
      rfl

theorem map_id_of_obey {before moved : List Salmon}
    (h : List.Forall₂ (fun earlier now => river.obey earlier = .ok now) before moved) :
    moved.map Salmon.id = before.map Salmon.id := by
  induction h with
  | nil => rfl
  | cons hobey hrest ih => rw [List.map_cons, List.map_cons, id_of_obey hobey, ih]

theorem Snags.id_eq (h : river.Snags salmon left fault) : left.id = salmon.id := by
  cases h with
  | astray hout => rfl
  | ahead hinstr hahead hcode => rfl
  | below hobeys hcode => exact id_of_obey hobeys

/-- A snag leaves the salmon as it was, or as its whole instruction leaves it. -/
theorem Snags.whole (h : river.Snags salmon left fault) :
    left = salmon ∧ river.obey salmon = .error fault ∨
      river.obey salmon = .ok left ∧ 2 < river.tiles.code left.cell := by
  cases h with
  | astray hout => exact .inl ⟨rfl, obey_eq_error_iff.2 (.inl ⟨hout, rfl⟩)⟩
  | ahead hinstr hahead hcode => exact .inl ⟨rfl, obey_of_ahead hinstr hahead hcode⟩
  | below hobeys hcode => exact .inr ⟨hobeys, hcode⟩

/-- A tick fails exactly if a salmon meets a snag. -/
theorem exists_interruption_iff :
    (∃ interruption, river.tick = .error interruption) ↔
      ∃ one ∈ river.salmon, ∃ left fault, river.Snags one left fault := by
  constructor
  · rintro ⟨interruption, htick⟩
    by_contra hclear
    have hflows : river.Flows river.salmon := by
      simpa only [not_exists, not_and, ← flows_iff] using hclear
    rw [tick_eq_drift hflows] at htick
    cases htick
  · rintro ⟨one, hone, left, fault, hsnag⟩
    unfold tick
    cases hround : river.round 0 river.salmon with
    | error jam => exact ⟨_, rfl⟩
    | ok result => exact absurd hsnag (clear_of_round hround one hone left fault)

theorem tick_eq_error_inv {interruption : Interruption} (h : river.tick = .error interruption) :
    ∃ jam, river.round 0 river.salmon = .error jam ∧
      interruption = ⟨{ river with salmon := jam.salmon }, jam.fault⟩ := by
  unfold tick at h
  split at h
  · cases h
  · rename_i jam hround
    cases h
    exact ⟨jam, hround, rfl⟩

/-- What a failing tick leaves behind, whatever the map is made of and wherever the salmon and
the jumps lead.  A tick fails exactly if a salmon meets a snag.  Then those before the first
such salmon have followed their instructions, those behind it are as they were, and it is
itself either as it was or as its whole instruction leaves it.  Nobody is gone, and the map
and the program are the same. -/
theorem failing_tick_stops_short (river : River) :
    ((∃ interruption, river.tick = .error interruption) ↔
      ∃ one ∈ river.salmon, ∃ left fault, river.Snags one left fault) ∧
    ∀ interruption, river.tick = .error interruption →
      interruption.river.tiles = river.tiles ∧ interruption.river.program = river.program ∧
      interruption.river.salmon.map Salmon.id = river.salmon.map Salmon.id ∧
      ∃ before one after moved left, river.salmon = before ++ one :: after ∧
        interruption.river.salmon = moved ++ left :: after ∧
        List.Forall₂ (fun earlier now => river.obey earlier = .ok now) before moved ∧
        (∀ earlier ∈ before, ∀ left fault, ¬river.Snags earlier left fault) ∧
        river.Snags one left interruption.fault ∧
        (left = one ∧ river.obey one = .error interruption.fault ∨
          river.obey one = .ok left ∧ 2 < river.tiles.code left.cell) := by
  refine ⟨exists_interruption_iff, fun interruption htick => ?_⟩
  obtain ⟨jam, hround, rfl⟩ := tick_eq_error_inv htick
  obtain ⟨before, one, after, moved, left, hsalmon, hjam, hmoved, hclear, hsnag⟩ :=
    round_eq_error_inv hround
  refine ⟨rfl, rfl, ?_, before, one, after, moved, left, hsalmon, hjam, hmoved, hclear, hsnag,
    hsnag.whole⟩
  rw [hjam, hsalmon, List.map_append, List.map_append, List.map_cons, List.map_cons, hsnag.id_eq,
    map_id_of_obey hmoved]

/-- In water with a column of bytes that stand for no tile the second of three salmon is stopped
on its own cell, when it has jumped already.  The third one is astray, but it has no turn. -/
theorem failing_tick_stops_short_silt :
    ∃ (river : River) (interruption : Interruption),
      river.salmon.map Salmon.pc = [0, 0, 9] ∧ river.tick = .error interruption ∧
      interruption.fault = .unknownTile ⟨7⟩ ∧
      interruption.river.salmon.map Salmon.pc = [1, 1, 9] ∧
      interruption.river.salmon.map Salmon.id = river.salmon.map Salmon.id ∧
      ∃ before one after moved left, river.salmon = before ++ one :: after ∧
        interruption.river.salmon = moved ++ left :: after ∧
        river.Snags one left interruption.fault := by
  let river : River :=
    ⟨TileMap.ofFn fun cell => if cell.x = 1 then 7 else 0,
      [⟨0, ⟨5, 5⟩, 0⟩, ⟨1, ⟨1, 3⟩, 0⟩, ⟨2, ⟨1, 3⟩, 9⟩], #[.goto 1, .idle]⟩
  have hround : river.round 0 river.salmon =
      .error ⟨[⟨0, ⟨5, 5⟩, 1⟩, ⟨1, ⟨1, 3⟩, 1⟩, ⟨2, ⟨1, 3⟩, 9⟩], .unknownTile ⟨7⟩⟩ := by
    decide +kernel
  obtain ⟨interruption, htick, hinterruption⟩ : ∃ interruption,
      river.tick = .error interruption ∧ interruption = ⟨{ river with salmon := _ }, _⟩ :=
    ⟨_, by rw [tick, hround], rfl⟩
  obtain ⟨-, hleaves⟩ := failing_tick_stops_short river
  obtain ⟨-, -, hids, before, one, after, moved, left, hsalmon, hleft, -, -, hsnag, -⟩ :=
    hleaves interruption htick
  subst hinterruption
  exact ⟨river, _, rfl, htick, rfl, rfl, hids, before, one, after, moved, left, hsalmon, hleft,
    hsnag⟩

end River

end RiverPuzzle
