import RiverPuzzle.Code.Lowering
import RiverPuzzle.Log
import RiverPuzzle.River.Tick

/-!
# Sessions

A player works on a list of levels: edits the program, switches levels, lets the
river run and stops it.  Every edit is compiled.  A program with at least one
instruction replaces the active one and restarts the level; a refused or an
empty one only shows in the status and leaves the river alone.
-/

namespace RiverPuzzle

/-- What became of the source text when it was last compiled. -/
inductive CompileStatus
  | good
  | rejected
  | empty
deriving DecidableEq, Repr

def CompileStatus.name : CompileStatus → String
  | .good => "ok"
  | .rejected => "syntax_error"
  | .empty => "empty"

/-- A player's session.  The levels are counted from zero.  A rejection stays until a
text is compiled that is not refused. -/
structure Session where
  levels : List Level
  position : Nat
  position_lt : position < levels.length
  source : List Char
  program : Program
  status : CompileStatus
  rejection : Option Rejection
  running : Bool
  river : River

/-- Why a session refuses something. -/
inductive SessionFault
  | noLevels
  | noSuchLevel (count : Nat)
  | load (fault : LoadFault)
  | tick (fault : TickFault)
deriving DecidableEq, Repr

def SessionFault.message : SessionFault → String
  | .noLevels => "a session needs at least one level"
  | .noSuchLevel count => "level must be between 1 and " ++ toString count
  | .load fault => fault.message
  | .tick fault => fault.message

/-- What a player does.  Levels are counted from one here. -/
inductive Action
  | tick
  | edit (source : List Char)
  | switch (level : Int)
  | toggle
  | restart
  | setTile (cell : Cell) (tile : Tile)
deriving DecidableEq, Repr

/-- What a player is told. -/
inductive Reply
  | done
  | complete (value : Bool)
  | compiled (status : CompileStatus)
  | running (value : Bool)
deriving DecidableEq, Repr

/-- The session after an action, the reply, and what was logged. -/
structure Outcome where
  session : Session
  reply : Except SessionFault Reply
  log : List LogRecord

namespace Session

/-- The time between two ticks of a running session, in milliseconds. -/
def tickInterval : Nat := 1000

/-- The source text of a new session. -/
def firstSource : List Char :=
  "move left;\nmove right;\n".toList

/-- The program of a new session, which is what its source text describes. -/
def firstProgram : Program :=
  #[.move .left, .move .right]

/-- The level that is being played. -/
def level (session : Session) : Level :=
  session.levels.get ⟨session.position, session.position_lt⟩

/-- A new session on a list of levels. -/
def start (levels : List Level) : Except SessionFault Session :=
  match levels with
  | [] => .error .noLevels
  | level :: rest =>
      match River.load level firstProgram with
      | .error fault => .error (.load fault)
      | .ok river => .ok {
          levels := level :: rest
          position := 0
          position_lt := Nat.zero_lt_succ rest.length
          source := firstSource
          program := firstProgram
          status := .good
          rejection := none
          running := false
          river := river }

/-- Load the level again with the active program and stop. -/
def restart (session : Session) : Session × Except SessionFault Unit :=
  match River.load session.level session.program with
  | .ok river => ({ session with river := river, running := false }, .ok ())
  | .error fault => (session, .error (.load fault))

/-- Restart, and reply as given if that goes well. -/
def restartThen (session : Session) (reply : Reply) (log : List LogRecord) : Outcome :=
  let (session, result) := session.restart
  ⟨session, result.map fun _ => reply, log⟩

/-- Replace the source text and compile it. -/
def edit (session : Session) (source : List Char) : Outcome :=
  match Program.ofText source with
  | .error rejection =>
      ⟨{ session with source := source, rejection := some rejection, status := .rejected },
        .ok (.compiled .rejected),
        [⟨.debug, .session, "Source rejected: " ++ rejection.message⟩]⟩
  | .ok program =>
      let session := { session with source := source, rejection := none }
      if program.isEmpty then
        ⟨{ session with status := .empty }, .ok (.compiled .empty), []⟩
      else
        restartThen { session with program := program, status := .good } (.compiled .good) []

/-- Go to the level with the given number, counted from one. -/
def switch (session : Session) (number : Int) : Outcome :=
  if h : 1 ≤ number ∧ number ≤ session.levels.length then
    restartThen { session with position := number.toNat - 1, position_lt := by omega } .done []
  else ⟨session, .error (.noSuchLevel session.levels.length), []⟩

/-- Change a tile of the level that is being played; the river stays as it is. -/
def setTile (session : Session) (cell : Cell) (tile : Tile) : Session :=
  { session with
    levels := session.levels.set session.position (session.level.setTile cell tile)
    position_lt := by simpa using session.position_lt }

/-- Let one tick pass, if the session is running; it stops when the level is
complete. -/
def tick (session : Session) : Outcome :=
  if session.running then
    match session.river.tick with
    | .error interruption =>
        ⟨{ session with river := interruption.river }, .error (.tick interruption.fault), []⟩
    | .ok river =>
        if river.isComplete then
          ⟨{ session with river := river, running := false }, .ok (.complete true),
            [⟨.info, .session, "Level " ++ toString session.level.number ++ " complete"⟩]⟩
        else ⟨{ session with river := river }, .ok (.complete false), []⟩
  else ⟨session, .ok (.complete session.river.isComplete), []⟩

/-- Do what the player does. -/
def perform (session : Session) : Action → Outcome
  | .tick => session.tick
  | .edit source => session.edit source
  | .switch number => session.switch number
  | .toggle =>
      ⟨{ session with running := !session.running }, .ok (.running !session.running), []⟩
  | .restart => session.restartThen .done []
  | .setTile cell tile => ⟨session.setTile cell tile, .ok .done, []⟩

end Session

end RiverPuzzle
