import RiverPuzzle.Proofs.Placement
import RiverPuzzle.Session

/-!
# Chronicles of a session

A chronicle notes, beside a session, the tiles that its level had at the last
restart and how many ticks have passed in the river since.  The main statement:
after every history of actions the river of the session is that of its level with
those tiles, loaded with the active program and advanced by that many ticks, and
no action is refused but the switch to a level that is not there.
-/

namespace RiverPuzzle

namespace Action

/-- The action loads the level anew, in a session of `count` levels: the player
restarts it, switches to a level that is there, or edits the program to one with
an instruction. -/
def restarts (count : Nat) : Action → Bool
  | .restart => true
  | .switch number => 1 ≤ number ∧ number ≤ count
  | .edit source =>
      match Program.ofText source with
      | .ok program => !program.isEmpty
      | .error _ => false
  | _ => false

/-- The action lets a tick pass in the river of a session. -/
def advances (running : Bool) : Action → Bool
  | .tick => running
  | _ => false

/-- The action asks for a level that is not there, in a session of `count` levels. -/
def misses (count : Nat) : Action → Bool
  | .switch number => ¬(1 ≤ number ∧ number ≤ count)
  | _ => false

end Action

namespace Session

/-- All maps are proper, the active program can be loaded, and the river is sound. -/
structure Ready (session : Session) : Prop where
  levels : ∀ level ∈ session.levels, level.tiles.Proper
  size : 0 < session.program.size
  closed : session.program.Closed
  river : session.river.Sound

/-- What an action can make of a session: it loads the level anew, lets a tick pass
in the river, leaves the river alone, or is refused and changes nothing. -/
inductive Effect (session : Session) (action : Action) (outcome : Outcome) : Prop
  | restarted
      (hrestarts : action.restarts session.levels.length = true)
      (hmisses : action.misses session.levels.length = false)
      (hreply : ∃ reply, outcome.reply = .ok reply)
      (hlevels : outcome.session.levels = session.levels)
      (hsize : 0 < outcome.session.program.size)
      (hclosed : outcome.session.program.Closed)
      (hriver : outcome.session.river =
        River.fresh outcome.session.level outcome.session.program)
  | advanced
      (hrestarts : action.restarts session.levels.length = false)
      (hadvances : action.advances session.running = true)
      (hmisses : action.misses session.levels.length = false)
      (hreply : ∃ reply, outcome.reply = .ok reply)
      (hsession : ∃ running, outcome.session =
        { session with river := session.river.drift, running := running })
  | kept
      (hrestarts : action.restarts session.levels.length = false)
      (hadvances : action.advances session.running = false)
      (hmisses : action.misses session.levels.length = false)
      (hreply : ∃ reply, outcome.reply = .ok reply)
      (hlevels : ∀ level ∈ outcome.session.levels, level.tiles.Proper)
      (hlevel : ∃ tiles, outcome.session.level = { session.level with tiles := tiles })
      (hprogram : outcome.session.program = session.program)
      (hriver : outcome.session.river = session.river)
  | refused
      (hrestarts : action.restarts session.levels.length = false)
      (hadvances : action.advances session.running = false)
      (hmisses : action.misses session.levels.length = true)
      (hreply : outcome.reply = .error (.noSuchLevel session.levels.length))
      (hsession : outcome.session = session)

variable {session : Session}

theorem level_mem (session : Session) : session.level ∈ session.levels :=
  List.get_mem session.levels _

/-- With a program that can be loaded a restart never fails. -/
theorem restartThen_eq (session : Session) (hsize : 0 < session.program.size)
    (hclosed : session.program.Closed) (reply : Reply) (log : List LogRecord) :
    session.restartThen reply log =
      ⟨{ session with
          river := River.fresh session.level session.program, running := false },
        .ok reply, log⟩ := by
  simp [restartThen, restart, River.load_eq_fresh hsize hclosed, Except.map]

theorem Ready.effect_tick (h : session.Ready) :
    session.Effect .tick (session.perform .tick) := by
  rw [perform, tick]
  cases hrunning : session.running with
  | false => exact .kept rfl hrunning rfl ⟨_, rfl⟩ h.levels ⟨session.level.tiles, rfl⟩ rfl rfl
  | true =>
      rw [if_pos rfl, River.tick_eq_drift h.river.flows]
      cases hcomplete : session.river.drift.isComplete with
      | true =>
          simp only [hcomplete, if_true]
          exact .advanced rfl hrunning rfl ⟨_, rfl⟩ ⟨false, rfl⟩
      | false =>
          simp only [hcomplete, Bool.false_eq_true, if_false]
          exact .advanced rfl hrunning rfl ⟨_, rfl⟩ ⟨true, rfl⟩

theorem Ready.effect_edit (h : session.Ready) (source : List Char) :
    session.Effect (.edit source) (session.perform (.edit source)) := by
  rw [perform, edit]
  cases hcompile : Program.ofText source with
  | error rejection =>
      exact .kept (by simp [Action.restarts, hcompile]) rfl rfl ⟨_, rfl⟩ h.levels
        ⟨session.level.tiles, rfl⟩ rfl rfl
  | ok program =>
      cases hempty : program.isEmpty with
      | true =>
          simp only [hempty, if_true]
          exact .kept (by simp [Action.restarts, hcompile, hempty]) rfl rfl ⟨_, rfl⟩ h.levels
            ⟨session.level.tiles, rfl⟩ rfl rfl
      | false =>
          have hsize := Program.isEmpty_eq_false_iff.1 hempty
          have hclosed := Program.closed_of_ofText hcompile
          simp only [hempty, Bool.false_eq_true, if_false]
          rw [restartThen_eq _ hsize hclosed]
          exact .restarted (by simp [Action.restarts, hcompile, hempty]) rfl ⟨_, rfl⟩ rfl hsize
            hclosed rfl

theorem Ready.effect_switch (h : session.Ready) (number : Int) :
    session.Effect (.switch number) (session.perform (.switch number)) := by
  rw [perform, switch]
  by_cases hin : 1 ≤ number ∧ number ≤ session.levels.length
  · have hmoved := restartThen_eq
      { session with position := number.toNat - 1, position_lt := by omega }
      h.size h.closed .done []
    rw [dif_pos hin, hmoved]
    exact .restarted (decide_eq_true hin) (decide_eq_false (not_not_intro hin)) ⟨_, rfl⟩ rfl
      h.size h.closed rfl
  · rw [dif_neg hin]
    exact .refused (decide_eq_false hin) rfl (decide_eq_true hin) rfl rfl

theorem level_setTile (session : Session) (cell : Cell) (tile : Tile) :
    (session.setTile cell tile).level = session.level.setTile cell tile := by
  simp [setTile, level]

theorem Ready.effect_setTile (h : session.Ready) (cell : Cell) (tile : Tile) :
    session.Effect (.setTile cell tile) (session.perform (.setTile cell tile)) := by
  refine .kept rfl rfl rfl ⟨_, rfl⟩ ?_ ⟨session.level.tiles.set cell tile, ?_⟩ rfl rfl
  · intro level hlevel
    rcases List.mem_or_eq_of_mem_set hlevel with hold | rfl
    · exact h.levels level hold
    · exact (h.levels _ session.level_mem).set cell tile
  · exact session.level_setTile cell tile

theorem Ready.effect (h : session.Ready) (action : Action) :
    session.Effect action (session.perform action) := by
  cases action with
  | tick => exact h.effect_tick
  | edit source => exact h.effect_edit source
  | switch number => exact h.effect_switch number
  | toggle => exact .kept rfl rfl rfl ⟨_, rfl⟩ h.levels ⟨session.level.tiles, rfl⟩ rfl rfl
  | restart =>
      rw [perform, session.restartThen_eq h.size h.closed]
      exact .restarted rfl rfl ⟨_, rfl⟩ rfl h.size h.closed rfl
  | setTile cell tile => exact h.effect_setTile cell tile

end Session

/-- A session, the tiles that its level had at the last restart, and the ticks that
have passed in its river since. -/
structure Chronicle where
  session : Session
  tiles : TileMap
  ticks : Nat

namespace Chronicle

/-- The chronicle of a session that has just loaded its level. -/
def opening (session : Session) : Chronicle :=
  ⟨session, session.level.tiles, 0⟩

/-- Do what the player does, and note it. -/
def note (chronicle : Chronicle) (action : Action) : Chronicle :=
  let next := (chronicle.session.perform action).session
  if action.restarts chronicle.session.levels.length then opening next
  else if action.advances chronicle.session.running then
    ⟨next, chronicle.tiles, chronicle.ticks + 1⟩
  else ⟨next, chronicle.tiles, chronicle.ticks⟩

/-- The level that the river was loaded with: the current one, with the tiles of
the last restart. -/
def loaded (chronicle : Chronicle) : Level :=
  { chronicle.session.level with tiles := chronicle.tiles }

/-- All maps are proper, the program can be loaded, and the river has drifted from
the loaded level for as many ticks as are noted. -/
structure Sound (chronicle : Chronicle) : Prop where
  levels : ∀ level ∈ chronicle.session.levels, level.tiles.Proper
  tiles : chronicle.tiles.Proper
  size : 0 < chronicle.session.program.size
  closed : chronicle.session.program.Closed
  river : chronicle.session.river =
    River.drift^[chronicle.ticks] (River.fresh chronicle.loaded chronicle.session.program)

variable {chronicle : Chronicle}

theorem Sound.sound_fresh (h : chronicle.Sound) :
    (River.fresh chronicle.loaded chronicle.session.program).Sound := by
  have hproper : chronicle.loaded.tiles.Proper := h.tiles
  exact River.sound_fresh hproper h.size h.closed

theorem Sound.ready (h : chronicle.Sound) : chronicle.session.Ready where
  levels := h.levels
  size := h.size
  closed := h.closed
  river := h.river ▸ h.sound_fresh.iterate_drift chronicle.ticks

theorem sound_opening {session : Session} (hlevels : ∀ level ∈ session.levels, level.tiles.Proper)
    (hsize : 0 < session.program.size) (hclosed : session.program.Closed)
    (hriver : session.river = River.fresh session.level session.program) :
    (Chronicle.opening session).Sound where
  levels := hlevels
  tiles := hlevels _ session.level_mem
  size := hsize
  closed := hclosed
  river := hriver

/-- Whatever the player does, the chronicle stays sound. -/
theorem Sound.note (h : chronicle.Sound) (action : Action) : (chronicle.note action).Sound := by
  cases h.ready.effect action with
  | restarted hrestarts _ _ hlevels hsize hclosed hriver =>
      rw [Chronicle.note, if_pos hrestarts]
      exact sound_opening (hlevels ▸ h.levels) hsize hclosed hriver
  | advanced hrestarts hadvances _ _ hsession =>
      obtain ⟨running, hsession⟩ := hsession
      rw [Chronicle.note, hrestarts, hadvances, hsession]
      refine ⟨h.levels, h.tiles, h.size, h.closed, ?_⟩
      rw [if_neg Bool.false_ne_true, if_pos rfl, Function.iterate_succ_apply']
      exact congrArg River.drift h.river
  | kept hrestarts hadvances _ _ hlevels hlevel hprogram hriver =>
      obtain ⟨tiles, hlevel⟩ := hlevel
      rw [Chronicle.note, hrestarts, hadvances]
      refine ⟨hlevels, h.tiles, hprogram ▸ h.size, hprogram ▸ h.closed, ?_⟩
      simp only [Bool.false_eq_true, if_false, loaded, hlevel, hprogram, hriver]
      exact h.river
  | refused hrestarts hadvances _ _ hsession =>
      rw [Chronicle.note, hrestarts, hadvances, hsession]
      exact h

theorem Sound.foldl_note (h : chronicle.Sound) (actions : List Action) :
    (actions.foldl Chronicle.note chronicle).Sound := by
  induction actions generalizing chronicle with
  | nil => exact h
  | cons action rest ih => exact ih (h.note action)

end Chronicle

namespace Session

theorem firstProgram_closed : firstProgram.Closed := by
  decide

/-- A session can be started on any levels, and has then just loaded the first. -/
theorem exists_start {levels : List Level} (hlevels : levels ≠ [])
    (hproper : ∀ level ∈ levels, level.tiles.Proper) :
    ∃ session, start levels = .ok session ∧ (Chronicle.opening session).Sound := by
  obtain ⟨level, rest, rfl⟩ := List.exists_cons_of_ne_nil hlevels
  have hsize : 0 < firstProgram.size := by decide
  refine ⟨_, by rw [start, River.load_eq_fresh hsize firstProgram_closed level], ?_⟩
  exact Chronicle.sound_opening hproper hsize firstProgram_closed rfl

/-- After every history of actions the river is that of the current level with the
tiles of its last restart, loaded with the active program and advanced by the ticks
let pass since.  What neither restarts the level nor lets a tick pass leaves the
river alone, and only the switch to a level that is not there is refused; it changes
nothing. -/
theorem river_of_history (levels : List Level) (hlevels : levels ≠ [])
    (hproper : ∀ level ∈ levels, level.tiles.Proper) :
    ∃ first, start levels = .ok first ∧ ∀ (actions : List Action) (now : Chronicle),
      actions.foldl Chronicle.note (.opening first) = now →
      (∃ river, River.load now.loaded now.session.program = .ok river ∧
        river.ticks now.ticks = .ok now.session.river) ∧
      ∀ action : Action,
        (action.restarts now.session.levels.length = false →
          action.advances now.session.running = false →
          (now.session.perform action).session.river = now.session.river) ∧
        (action.misses now.session.levels.length = false →
          ∃ reply, (now.session.perform action).reply = .ok reply) ∧
        (action.misses now.session.levels.length = true →
          (now.session.perform action).reply =
              .error (.noSuchLevel now.session.levels.length) ∧
            (now.session.perform action).session = now.session) := by
  obtain ⟨first, hstart, hopening⟩ := exists_start hlevels hproper
  refine ⟨first, hstart, ?_⟩
  rintro actions now rfl
  have hnow := hopening.foldl_note actions
  refine ⟨⟨_, River.load_eq_fresh hnow.size hnow.closed _, ?_⟩, ?_⟩
  · rw [hnow.river]
    exact hnow.sound_fresh.ticks_eq _
  · intro action
    cases hnow.ready.effect action with
    | restarted hrestarts hmisses hreply => simp [hrestarts, hmisses, hreply]
    | advanced hrestarts hadvances hmisses hreply => simp [hadvances, hmisses, hreply]
    | kept hrestarts hadvances hmisses hreply _ _ _ hriver => simp [hmisses, hreply, hriver]
    | refused hrestarts hadvances hmisses hreply hsession => simp [hmisses, hreply, hsession]

/-- A rock that is put into the pond while the river runs is not in its river. -/
theorem river_of_history_pond :
    [Level.pond] ≠ [] ∧ (∀ level ∈ [Level.pond], level.tiles.Proper) ∧
      ∃ first, start [Level.pond] = .ok first ∧
        ∃ river, River.load Level.pond firstProgram = .ok river ∧
          river.ticks 1 = .ok (([.toggle, .setTile ⟨4, 5⟩ .rock, .tick] : List Action).foldl
            Chronicle.note (.opening first)).session.river := by
  have hlevels : [Level.pond] ≠ [] := List.cons_ne_nil _ _
  have hproper : ∀ level ∈ [Level.pond], level.tiles.Proper := by
    intro level hlevel
    rw [List.mem_singleton.1 hlevel]
    exact Level.pond_proper
  obtain ⟨first, hstart, hhistory⟩ := river_of_history [Level.pond] hlevels hproper
  refine ⟨hlevels, hproper, first, hstart, ?_⟩
  cases hstart
  obtain ⟨⟨river, hload, hticks⟩, -⟩ := hhistory [.toggle, .setTile ⟨4, 5⟩ .rock, .tick] _ rfl
  exact ⟨river, hload, hticks⟩

end Session

end RiverPuzzle
