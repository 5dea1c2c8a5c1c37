import RiverPuzzle.Proofs.FinishedRun
import RiverPuzzle.Proofs.LastGood
import RiverPuzzle.Proofs.TracedRun

/-!
# Sessions in step with runs

A run asks before a tick whether a salmon is left, a session after it.  This module follows
the ticks of a running session until its level is complete and beyond.  The main statement
sets a session to the level and the program of a run: tick by tick its salmon are those in
the trace of the run, and it stops when the run is complete.
-/

namespace RiverPuzzle

namespace Session

variable {session : Session}

/-- Whatever the player does, the session stays ready. -/
theorem Ready.perform (h : session.Ready) (action : Action) :
    (session.perform action).session.Ready := by
  cases h.effect action with
  | restarted _ _ _ hlevels hsize hclosed hriver =>
      refine ⟨hlevels ▸ h.levels, hsize, hclosed, ?_⟩
      have hproper := h.levels _ (hlevels ▸ level_mem (session.perform action).session)
      rw [hriver]
      exact River.sound_fresh hproper hsize hclosed
  | advanced _ _ _ _ hsession =>
      obtain ⟨running, hsession⟩ := hsession
      rw [hsession]
      exact ⟨h.levels, h.size, h.closed, h.river.drift⟩
  | kept _ _ _ _ hlevels _ hprogram hriver =>
      exact ⟨hlevels, hprogram ▸ h.size, hprogram ▸ h.closed, hriver ▸ h.river⟩
  | refused _ _ _ _ hsession =>
      rw [hsession]
      exact h

theorem Ready.after (h : session.Ready) (actions : List Action) :
    (session.after actions).Ready := by
  induction actions generalizing session with
  | nil => exact h
  | cons action rest ih => exact ih (h.perform action)

/-- The session after a number of ticks, one after the other. -/
def afterTicks (session : Session) (count : Nat) : Session :=
  session.after (List.replicate count .tick)

/-- What comes of the tick that follows a number of ticks. -/
def tickAfter (session : Session) (count : Nat) : Outcome :=
  (session.afterTicks count).perform .tick

theorem afterTicks_succ (session : Session) (count : Nat) :
    session.afterTicks (count + 1) = (session.tickAfter count).session := by
  rw [tickAfter, afterTicks, afterTicks, List.replicate_succ', Session.after, List.foldl_append]
  rfl

theorem afterTicks_add (session : Session) (count more : Nat) :
    session.afterTicks (count + more) = (session.afterTicks count).afterTicks more := by
  rw [afterTicks, ← List.replicate_append_replicate, Session.after, List.foldl_append]
  rfl

/-- A session that is stopped lets no tick pass. -/
theorem tick_of_stopped (hstopped : session.running = false) :
    session.perform .tick = ⟨session, .ok (.complete session.river.isComplete), []⟩ := by
  rw [perform, tick, hstopped, if_neg Bool.false_ne_true]

theorem afterTicks_of_stopped (hstopped : session.running = false) (count : Nat) :
    session.afterTicks count = session := by
  induction count with
  | zero => rfl
  | succ count ih => rw [afterTicks_succ, tickAfter, ih, tick_of_stopped hstopped]

/-- A tick that leaves a salmon in the river leaves the session running. -/
theorem tick_of_lively (session : Session) (hrunning : session.running = true)
    (hsound : session.river.Sound) (hlively : session.river.drift.isComplete = false) :
    session.perform .tick =
      ⟨{ session with river := session.river.drift }, .ok (.complete false), []⟩ := by
  simp only [perform, tick, hrunning, if_true, River.tick_eq_drift hsound.flows, hlively,
    Bool.false_eq_true, if_false]

/-- A tick that leaves no salmon in the river stops the session. -/
theorem tick_of_complete (session : Session) (hrunning : session.running = true)
    (hsound : session.river.Sound) (hcomplete : session.river.drift.isComplete = true) :
    session.perform .tick =
      ⟨{ session with river := session.river.drift, running := false }, .ok (.complete true),
        [⟨.info, .session, "Level " ++ toString session.level.number ++ " complete"⟩]⟩ := by
  simp only [perform, tick, hrunning, if_true, River.tick_eq_drift hsound.flows, hcomplete]

/-- As long as a salmon is left a running session runs on. -/
theorem afterTicks_of_lively (hrunning : session.running = true) (hsound : session.river.Sound)
    {count : Nat} (hlively : ∀ tick < count,
      (River.drift^[tick + 1] session.river).isComplete = false) :
    session.afterTicks count = { session with river := River.drift^[count] session.river } := by
  induction count with
  | zero => rfl
  | succ count ih =>
      have hbefore := ih fun tick hlt => hlively tick (Nat.lt_succ_of_lt hlt)
      have hlast := hlively count (Nat.lt_succ_self count)
      rw [Function.iterate_succ_apply'] at hlast ⊢
      rw [afterTicks_succ, tickAfter, hbefore]
      rw [tick_of_lively { session with river := River.drift^[count] session.river } hrunning
        (hsound.iterate_drift count) hlast]

/-- The river of a running session has let all its ticks pass, the last one included. -/
theorem river_afterTicks (hrunning : session.running = true) (hsound : session.river.Sound)
    {count : Nat} (hlively : ∀ tick < count,
      (River.drift^[tick] session.river).isComplete = false) :
    (session.afterTicks count).river = River.drift^[count] session.river := by
  rcases count with _ | count
  · rfl
  · have hdrifted := hsound.iterate_drift count
    rw [afterTicks_succ, tickAfter, Function.iterate_succ_apply',
      afterTicks_of_lively hrunning hsound fun tick hlt =>
        hlively (tick + 1) (Nat.succ_lt_succ hlt)]
    by_cases hcomplete : (River.drift^[count] session.river).drift.isComplete = true
    · rw [tick_of_complete { session with river := River.drift^[count] session.river } hrunning
        hdrifted hcomplete]
    · rw [tick_of_lively { session with river := River.drift^[count] session.river } hrunning
        hdrifted (Bool.eq_false_iff.2 hcomplete)]

/-- A tick of a running session that leaves a salmon says that the level is not complete. -/
theorem reply_of_lively (hrunning : session.running = true) (hsound : session.river.Sound)
    {count : Nat} (hlively : ∀ tick ≤ count + 1,
      (River.drift^[tick] session.river).isComplete = false) :
    (session.tickAfter count).reply = .ok (.complete false) := by
  have hnext := hlively (count + 1) (Nat.le_refl _)
  rw [Function.iterate_succ_apply'] at hnext
  rw [tickAfter, afterTicks_of_lively hrunning hsound fun tick hlt => hlively (tick + 1) (by omega),
    tick_of_lively { session with river := River.drift^[count] session.river } hrunning
      (hsound.iterate_drift count) hnext]

/-- The tick that completes the level stops the session. -/
theorem tickAfter_of_complete (hrunning : session.running = true) (hsound : session.river.Sound)
    {count : Nat} (hlively : ∀ tick ≤ count,
      (River.drift^[tick] session.river).isComplete = false)
    (hcomplete : (River.drift^[count + 1] session.river).isComplete = true) :
    (session.tickAfter count).reply = .ok (.complete true) ∧
      (session.afterTicks (count + 1)).running = false ∧
      (session.afterTicks (count + 1)).river.isComplete = true := by
  rw [Function.iterate_succ_apply'] at hcomplete
  rw [afterTicks_succ, tickAfter,
    afterTicks_of_lively hrunning hsound fun tick hlt => hlively (tick + 1) hlt,
    tick_of_complete { session with river := River.drift^[count] session.river } hrunning
      (hsound.iterate_drift count) hcomplete]
  exact ⟨rfl, rfl, hcomplete⟩

/-- In a session that has stopped with a complete level nothing happens any more. -/
theorem tickAfter_of_stopped {count : Nat}
    (hstopped : (session.afterTicks count).running = false)
    (hcomplete : (session.afterTicks count).river.isComplete = true) {later : Nat}
    (hle : count ≤ later) :
    session.tickAfter later = ⟨session.afterTicks later, .ok (.complete true), []⟩ := by
  obtain ⟨more, rfl⟩ := Nat.exists_eq_add_of_le hle
  rw [tickAfter, afterTicks_add, afterTicks_of_stopped hstopped, tick_of_stopped hstopped,
    hcomplete]

section

variable {cap count : Nat} {last : River}

/-- A session goes through the ticks of a run that is complete, and stops with the last. -/
theorem replies_of_complete (hrunning : session.running = true) (hsound : session.river.Sound)
    (hends : session.river.Ends cap count last) (hlast : last.isComplete = true)
    (hone : 1 ≤ count) :
    (∀ tick, (session.tickAfter tick).reply = .ok (.complete (count ≤ tick + 1))) ∧
      (session.afterTicks count).running = false ∧
      ∀ tick, count ≤ tick →
        session.tickAfter tick = ⟨session.afterTicks tick, .ok (.complete true), []⟩ := by
  have hlively := hends.lively_drift hsound
  rw [hends.eq_drift hsound] at hlast
  obtain ⟨before, rfl⟩ := Nat.exists_eq_succ_of_ne_zero (Nat.ne_of_gt hone)
  obtain ⟨hreply, hstopped, hcomplete⟩ := tickAfter_of_complete hrunning hsound
    (fun tick hle => hlively tick (Nat.lt_succ_of_le hle)) hlast
  have hlater (tick : Nat) (hle : before.succ ≤ tick) :=
    tickAfter_of_stopped hstopped hcomplete hle
  refine ⟨fun tick => ?_, hstopped, hlater⟩
  rcases Nat.lt_trichotomy tick before with hlt | rfl | hgt
  · rw [reply_of_lively hrunning hsound fun other hle => hlively other (by omega),
      decide_eq_false (by omega)]
  · rw [hreply, decide_eq_true (Nat.le_refl _)]
  · rw [hlater tick hgt, decide_eq_true (by omega)]

/-- A session is not complete up to the cap with which a run ends before it is complete. -/
theorem replies_of_left (hrunning : session.running = true) (hsound : session.river.Sound)
    (hends : session.river.Ends cap count last) (hlast : last.isComplete = false) {tick : Nat}
    (hlt : tick < cap) : (session.tickAfter tick).reply = .ok (.complete false) := by
  have hcount := hends.eq_cap hlast
  rw [hends.eq_drift hsound] at hlast
  apply reply_of_lively hrunning hsound
  intro other hle
  rcases Nat.lt_or_eq_of_le (show other ≤ count by omega) with hbefore | rfl
  · exact hends.lively_drift hsound other hbefore
  · exact hlast

end

theorem Ready.level_switch (h : session.Ready) (position : Fin session.levels.length) :
    (session.perform (.switch (position + 1))).session.level = session.levels.get position := by
  have hin : 1 ≤ (position : Int) + 1 ∧ (position : Int) + 1 ≤ session.levels.length := by omega
  rw [Session.perform, Session.switch, dif_pos hin, restartThen_eq]
  · exact congrArg session.levels.get (Fin.ext (by simp))
  · exact h.size
  · exact h.closed

theorem session_edit (session : Session) {source : List Char} {program : Program}
    (hcompile : Program.ofText source = .ok program) (hempty : program.isEmpty = false) :
    (session.perform (.edit source)).session =
      { session with
        source := source, program := program, status := .good, rejection := none,
        river := River.fresh session.level program, running := false } := by
  have hsize := Program.isEmpty_eq_false_iff.1 hempty
  have hclosed := Program.closed_of_ofText hcompile
  simp only [perform, edit, hcompile, hempty, Bool.false_eq_true, if_false]
  rw [restartThen_eq _ hsize hclosed]
  rfl

/-- The player goes to a level, writes a program that works and lets the river run. -/
theorem Ready.launch (h : session.Ready) (position : Fin session.levels.length)
    {source : List Char} {program : Program} (hcompile : Program.ofText source = .ok program)
    (hempty : program.isEmpty = false) :
    (session.after [.switch (position + 1), .edit source, .toggle]).running = true ∧
      (session.after [.switch (position + 1), .edit source, .toggle]).river =
        River.fresh (session.levels.get position) program := by
  rw [← h.level_switch position, Session.after, List.foldl_cons, List.foldl_cons,
    session_edit _ hcompile hempty]
  exact ⟨rfl, rfl⟩

end Session

/-- However a session has come about, when the player goes to one of its levels, as it is by
then, writes a program that works and lets the river run, then the session keeps pace with a
traced run of that program on that level.  Up to the last tick of the run the salmon after
each tick are those in the rows of the tick.  If the run is complete, its last tick is the
first at which the session says so; the session has stopped then, and nothing changes
after it.  If the run ends with the cap, no tick of the session up to there says so. -/
theorem session_keeps_pace (levels : List Level) (hlevels : levels ≠ [])
    (hproper : ∀ level ∈ levels, level.tiles.Proper) :
    ∃ first, Session.start levels = .ok first ∧
      ∀ (actions : List Action) (now go : Session) (position : Fin now.levels.length)
        (level : Level) (source : List Char) (program : Program) (config : RunConfig)
        (threshold : Int) (out : Path) (disk ready : Disk) (trace summary : Location),
        first.after actions = now → now.levels.get position = level →
        Program.ofText source = .ok program → program.isEmpty = false →
        now.after [.switch (position + 1), .edit source, .toggle] = go →
        disk.Fresh ready out trace summary → config.traced = true → FitsWord level.number →
        config.maxTicks < wordLimit → program.size < wordLimit →
        level.starts.length < wordLimit →
        ∃ (report : RunReport) (groups : List (List TraceRow)),
          (runLevel threshold level program config (some out) disk).result = .ok report ∧
          Disk.entry? (runLevel threshold level program config (some out) disk).disk trace =
            (if groups.flatten = [] then none else some (.file (.trace groups))) ∧
          (∀ tick ≤ report.ticks,
            (go.afterTicks tick).river.salmon.map (TraceRow.ofSalmon level.number tick) =
              groups.flatten.filter fun row => row.tick = (tick : Int)) ∧
          (report.completed = true → 1 ≤ report.ticks →
            (∀ tick, (go.tickAfter tick).reply = .ok (.complete (report.ticks ≤ tick + 1))) ∧
            (go.afterTicks report.ticks).running = false ∧
            ∀ tick, report.ticks ≤ tick →
              go.tickAfter tick = ⟨go.afterTicks tick, .ok (.complete true), []⟩) ∧
          (report.completed = false →
            ∀ tick < config.maxTicks, (go.tickAfter tick).reply = .ok (.complete false)) := by
  obtain ⟨first, hstart, hopening⟩ := Session.exists_start hlevels hproper
  refine ⟨first, hstart, ?_⟩
  rintro actions now go position level source program config threshold out disk ready trace
    summary rfl hlevel hcompile hempty rfl hfresh htraced hnumber hcap hsize hstarts
  have hready : (first.after actions).Ready := hopening.ready.after actions
  obtain ⟨hrunning, hriver⟩ := hready.launch position hcompile hempty
  rw [hlevel] at hriver
  generalize (first.after actions).after [.switch (position + 1), .edit source, .toggle] = go
    at hrunning hriver ⊢
  have hmem : level ∈ (first.after actions).levels := hlevel ▸ List.get_mem _ _
  have hpos := Program.isEmpty_eq_false_iff.1 hempty
  have hclosed := Program.closed_of_ofText hcompile
  have hsound := River.sound_fresh (hready.levels level hmem) hpos hclosed
  have hload := River.load_eq_fresh hpos hclosed level
  obtain ⟨report, done, groups, -, hrun, hentry, hgrouped⟩ :=
    runLevel_traced hsound hload hfresh htraced hnumber hcap hsize hstarts threshold
  have hresult : (runLevel threshold level program config (some out) disk).result =
      .ok report := by rw [hrun]
  obtain ⟨last, htells⟩ := tells_of_runLevel hresult
  have hends := htells.ends
  rw [← hriver] at hsound hends
  refine ⟨report, groups, hresult, ?_, ?_, ?_, ?_⟩
  · rw [hrun, hentry]
    simp only [hgrouped.flatten_eq_nil_iff]
  · intro tick hle
    have hlively := hends.lively_drift hsound
    rw [Session.river_afterTicks hrunning hsound fun other hlt => hlively other (by omega), hriver,
      hgrouped.flatten, filter_rowsFrom (fun _ _ => River.tick_of_mem_rowsAt) (Nat.zero_le _) hle]
    rfl
  · intro hdone
    exact Session.replies_of_complete hrunning hsound hends (htells.completed.symm.trans hdone)
  · intro hleft tick
    exact Session.replies_of_left hrunning hsound hends (htells.completed.symm.trans hleft)

/-- A player who has put a second finish into the pond sees all salmon arrive within two
ticks, as a run of the same level does. -/
theorem session_keeps_pace_pond :
    [Level.pond] ≠ [] ∧ (∀ level ∈ [Level.pond], level.tiles.Proper) ∧
      Program.ofText "move left;".toList = .ok #[.move .left] ∧
      (∃ ready trace summary,
        Disk.Fresh (.blank [] []) ready ⟨"/", ["out"]⟩ trace summary) ∧
      ∃ first, Session.start [Level.pond] = .ok first ∧ ∀ go : Session,
        first.after [.tick, .setTile ⟨3, 5⟩ .finish, .switch 1, .edit "move left;".toList,
          .toggle] = go →
        (runLevel standardThreshold (Level.pond.setTile ⟨3, 5⟩ .finish) #[.move .left] .standard
          (some ⟨"/", ["out"]⟩) (.blank [] [])).result = .ok ⟨1, true, 2, 0⟩ ∧
        (∀ tick, (go.tickAfter tick).reply = .ok (.complete (2 ≤ tick + 1))) ∧
        (go.afterTicks 2).running = false := by
  have hlevels : [Level.pond] ≠ [] := List.cons_ne_nil _ _
  have hproper : ∀ level ∈ [Level.pond], level.tiles.Proper := by
    intro level hlevel
    rw [List.mem_singleton.1 hlevel]
    exact Level.pond_proper
  have hcompile : Program.ofText "move left;".toList = .ok #[.move .left] := by decide +kernel
  have hrun : (runLevel standardThreshold (Level.pond.setTile ⟨3, 5⟩ .finish) #[.move .left]
      .standard (some ⟨"/", ["out"]⟩) (.blank [] [])).result = .ok ⟨1, true, 2, 0⟩ := by
    decide +kernel
  have hplain : Path.Plain ⟨"/", ["out"]⟩ := ⟨.inl rfl, by decide⟩
  obtain ⟨ready, hfresh⟩ := Disk.fresh_of_plain hplain (by decide)
    (Disk.stands_origin_rooted _ rfl) (Disk.clear_blank [] [] _) (by decide) (by decide)
  obtain ⟨first, hstart, hpace⟩ := session_keeps_pace [Level.pond] hlevels hproper
  refine ⟨hlevels, hproper, hcompile, ⟨ready, _, _, hfresh⟩, first, hstart, ?_⟩
  rintro go hgo
  have hopen : (first.after [.tick, .setTile ⟨3, 5⟩ .finish]).levels =
      [Level.pond.setTile ⟨3, 5⟩ .finish] := by
    rw [Session.start, River.load_eq_fresh (by decide) Session.firstProgram_closed] at hstart
    cases hstart
    rfl
  have hlt : 0 < (first.after [.tick, .setTile ⟨3, 5⟩ .finish]).levels.length := by
    rw [hopen]
    exact Nat.one_pos
  obtain ⟨report, groups, hresult, -, -, hcomplete, -⟩ :=
    hpace [.tick, .setTile ⟨3, 5⟩ .finish] _ go ⟨0, hlt⟩ (Level.pond.setTile ⟨3, 5⟩ .finish)
      "move left;".toList #[.move .left] .standard standardThreshold ⟨"/", ["out"]⟩
      (.blank [] []) ready _ _ rfl (by simp [hopen]) hcompile rfl hgo hfresh rfl (by decide)
      (by decide) (by decide) (by decide)
  cases hrun.symm.trans hresult
  obtain ⟨hreply, hstopped, -⟩ := hcomplete rfl (by decide)
  exact ⟨hrun, hreply, hstopped⟩

end RiverPuzzle
