import Mathlib.Data.List.Induction
import RiverPuzzle.Proofs.Recording

/-!
# Rows that wait

Rows are added to a recorder and written in any order of steps.  A flush writes all the rows
that wait as one group, or has nothing to do, or fails because of a number that does not fit
and changes nothing.  The main statement: after any steps the rows that are written and those
that wait are the rows that have been added, in order.
-/

namespace RiverPuzzle

/-- The columns hold the numbers of the rows, in order. -/
structure Columns.Hold (columns : Columns) (rows : List TraceRow) : Prop where
  level : columns.level.toList = rows.map TraceRow.level
  tick : columns.tick.toList = rows.map TraceRow.tick
  id : columns.id.toList = rows.map TraceRow.id
  x : columns.x.toList = rows.map TraceRow.x
  y : columns.y.toList = rows.map TraceRow.y
  pc : columns.pc.toList = rows.map TraceRow.pc

namespace Columns

variable {columns : Columns}

theorem toList_column {column : Array Int} {field : TraceRow → Int}
    (hsize : column.size = columns.size)
    (hrow : ∀ place, field (columns.row place) = column.getD place 0) :
    column.toList = columns.toList.map field := by
  apply List.ext_getElem
  · rw [Array.length_toList, List.length_map, length_toList, hsize]
  · intro place hplace _
    have hlt : place < column.size := hplace
    simp [toList, hrow, Array.getD, hlt]

theorem hold_toList (columns : Columns) : columns.Hold columns.toList := by
  obtain ⟨hlevel, htick, hid, hx, hy, hpc⟩ := columns.size_eq
  exact ⟨toList_column hlevel fun _ => rfl, toList_column htick fun _ => rfl,
    toList_column hid fun _ => rfl, toList_column hx fun _ => rfl,
    toList_column hy fun _ => rfl, toList_column hpc fun _ => rfl⟩

end Columns

namespace Recorder

/-- What is done with a recorder: rows are added, or those that wait are to be written. -/
inductive Step
  | add (rows : List TraceRow)
  | flush

/-- The rows that a step adds. -/
def Step.rows : Step → List TraceRow
  | .add rows => rows
  | .flush => []

/-- The recorder after a step.  Its file can be opened. -/
def perform (recorder : Recorder) : Step → Recorder
  | .add rows => recorder.add rows
  | .flush => (recorder.flush (.ok ())).1

/-- A new recorder after a number of steps. -/
def after (steps : List Step) : Recorder :=
  steps.foldl perform new

variable {recorder : Recorder}

theorem after_concat (steps : List Step) (step : Step) :
    after (steps ++ [step]) = (after steps).perform step := by
  rw [after, List.foldl_append]
  rfl

theorem after_append (steps more : List Step) :
    after (steps ++ more) = more.foldl perform (after steps) :=
  List.foldl_append

/-- The rows that are written and those that wait. -/
def kept (recorder : Recorder) : List TraceRow :=
  recorder.written.flatten ++ recorder.pending.toList

/-- A step loses no row and repeats none. -/
theorem kept_perform (recorder : Recorder) (step : Step) :
    (recorder.perform step).kept = recorder.kept ++ step.rows := by
  cases step with
  | add rows =>
      rw [perform, kept, pending_add, ← List.append_assoc]
      rfl
  | flush =>
      have hflushed := recorder.flushed (.ok ())
      rw [perform, Step.rows, List.append_nil]
      generalize recorder.flush (.ok ()) = result at hflushed
      cases hflushed with
      | idle hnone => rfl
      | wrote hsome hfits hempty hwritten hopen =>
          simp [kept, hwritten, hempty, Columns.toList_empty]
      | failed hmisfit => rfl
      | shut hsome hfits hdoor => rfl

theorem kept_after (steps : List Step) : (after steps).kept = steps.flatMap Step.rows := by
  induction steps using List.reverseRecOn with
  | nil => rfl
  | append_singleton steps step ih =>
      rw [after_concat, kept_perform, ih, List.flatMap_append, List.flatMap_singleton]

/-- A flush of the recorder writes rows. -/
def Writes (recorder : Recorder) : Prop :=
  ∃ group, group ≠ [] ∧ (recorder.perform .flush).written = recorder.written ++ [group]

theorem not_writes_of_same (h : (recorder.perform .flush).written = recorder.written) :
    ¬recorder.Writes := by
  rintro ⟨group, -, hwritten⟩
  rw [h] at hwritten
  simp at hwritten

/-- A flush that writes rows opens the file, and nothing else does. -/
theorem isOpen_perform_iff (recorder : Recorder) (step : Step) :
    (recorder.perform step).isOpen = true ↔
      recorder.isOpen = true ∨ step = .flush ∧ recorder.Writes := by
  cases step with
  | add rows => simp [perform, add, isOpen]
  | flush =>
      have hflushed := recorder.flushed (.ok ())
      rcases hflush : recorder.flush (.ok ()) with ⟨next, fault?⟩
      have hnext : recorder.perform .flush = next := by rw [perform, hflush]
      rw [hflush] at hflushed
      cases hflushed with
      | idle hnone => simp [hnext, not_writes_of_same (congrArg written hnext)]
      | wrote hsome hfits hempty hwritten hopen =>
          have hwrites : recorder.Writes := ⟨_, hsome, hnext ▸ hwritten⟩
          simp [hnext, hopen, hwrites]
      | failed hmisfit => simp [hnext, not_writes_of_same (congrArg written hnext)]
      | shut hsome hfits hdoor => cases hdoor

/-- The file is open exactly if some flush has written rows. -/
theorem isOpen_after_iff (steps : List Step) :
    (after steps).isOpen = true ↔
      ∃ before later, steps = before ++ .flush :: later ∧ (after before).Writes := by
  induction steps using List.reverseRecOn with
  | nil => simp [after, isOpen, new]
  | append_singleton steps step ih =>
      rw [after_concat, isOpen_perform_iff, ih]
      constructor
      · rintro (⟨before, later, rfl, hwrites⟩ | ⟨rfl, hwrites⟩)
        · exact ⟨before, later ++ [step], by simp, hwrites⟩
        · exact ⟨steps, [], rfl, hwrites⟩
      · rintro ⟨before, later, hsteps, hwrites⟩
        rcases List.eq_nil_or_concat later with rfl | ⟨init, last, rfl⟩
        · obtain ⟨rfl, hlast⟩ := List.append_inj' hsteps rfl
          exact .inr ⟨List.singleton_inj.1 hlast, hwrites⟩
        · rw [List.concat_eq_append, ← List.cons_append, ← List.append_assoc] at hsteps
          obtain ⟨rfl, -⟩ := List.append_inj' hsteps rfl
          exact .inl ⟨before, init, rfl, hwrites⟩

theorem flush_fails_iff :
    (∃ fault, (recorder.flush (.ok ())).2 = some fault) ↔
      ∃ row ∈ recorder.pending.toList, ¬row.Fits := by
  constructor
  · rintro ⟨fault, hflush⟩
    by_contra hfits
    simp only [not_exists, not_and, not_not] at hfits
    obtain ⟨next, hnext⟩ := exists_flush hfits
    rw [hnext] at hflush
    cases hflush
  · intro hmisfit
    exact ⟨_, congrArg Prod.snd (flush_of_misfit hmisfit (.ok ()))⟩

/-- With such a number nothing is written any more, and all rows go on waiting. -/
theorem foldl_perform_of_misfit (hmisfit : ∃ row ∈ recorder.pending.toList, ¬row.Fits)
    (steps : List Step) :
    (steps.foldl perform recorder).groups = recorder.groups ∧
      (steps.foldl perform recorder).pending.toList =
        recorder.pending.toList ++ steps.flatMap Step.rows := by
  induction steps generalizing recorder with
  | nil => simp
  | cons step steps ih =>
      have hstep : (recorder.perform step).groups = recorder.groups ∧
          (recorder.perform step).pending.toList = recorder.pending.toList ++ step.rows := by
        cases step with
        | add rows => exact ⟨rfl, pending_add recorder rows⟩
        | flush => simp [perform, flush_of_misfit hmisfit, Step.rows]
      obtain ⟨row, hrow, hbad⟩ := hmisfit
      have hrow' : row ∈ (recorder.perform step).pending.toList := by
        rw [hstep.2]
        exact List.mem_append_left _ hrow
      obtain ⟨hgroups, hpending⟩ := ih ⟨row, hrow', hbad⟩
      rw [List.foldl_cons, List.flatMap_cons]
      exact ⟨hgroups.trans hstep.1, by rw [hpending, hstep.2, List.append_assoc]⟩

/-- After any steps the written groups and the rows that wait are the rows added so far, in
order, and the columns of those that wait are of one length.  A flush writes all of them, has
nothing to write, or fails, which it does exactly for a number that does not fit.  With such a
number no flush writes anything from then on, and no row is lost.  The file is open exactly if
some flush has written rows. -/
theorem rows_wait_or_are_written (steps : List Step) :
    ∃ waiting, (after steps).pending.Hold waiting ∧
      (∀ column ∈ [(after steps).pending.level, (after steps).pending.tick,
        (after steps).pending.id, (after steps).pending.x, (after steps).pending.y,
        (after steps).pending.pc], column.size = waiting.length) ∧
      (after steps).written.flatten ++ waiting = steps.flatMap Step.rows ∧
      (after steps).Flushed (.ok ()) waiting ((after steps).flush (.ok ())) ∧
      ((∃ fault, ((after steps).flush (.ok ())).2 = some fault) ↔
        ∃ row ∈ waiting, ∃ value ∈ row.values, ¬FitsWord value) ∧
      ((∃ row ∈ waiting, ∃ value ∈ row.values, ¬FitsWord value) → ∀ more,
        (after (steps ++ more)).groups = (after steps).groups ∧
        (after (steps ++ more)).pending.Hold (waiting ++ more.flatMap Step.rows) ∧
        (after (steps ++ more)).flush (.ok ()) =
          (after (steps ++ more), some (.overflow {}))) ∧
      ((after steps).isOpen = true ↔
        ∃ before later, steps = before ++ .flush :: later ∧ (after before).Writes) := by
  simp only [← TraceRow.not_fits_iff]
  refine ⟨(after steps).pending.toList, Columns.hold_toList _, ?_, kept_after steps,
    flushed (after steps) (.ok ()), flush_fails_iff, fun hmisfit more => ?_, isOpen_after_iff steps⟩
  · rw [Columns.length_toList]
    simpa using (after steps).pending.size_eq
  · obtain ⟨hgroups, hpending⟩ := foldl_perform_of_misfit hmisfit more
    rw [after_append]
    refine ⟨hgroups, hpending ▸ Columns.hold_toList _, flush_of_misfit ?_ (.ok ())⟩
    obtain ⟨row, hrow, hbad⟩ := hmisfit
    exact ⟨row, hpending ▸ List.mem_append_left _ hrow, hbad⟩

/-- A row of the pond is written.  Behind a row of a level whose number is too large another one
waits in vain. -/
theorem rows_wait_or_are_written_flood :
    ∃ (steps : List Step) (waiting : List TraceRow),
      steps = [.add [⟨1, 0, 0, 5, 5, 0⟩], .flush, .add [⟨wordLimit, 0, 0, 5, 5, 0⟩]] ∧
      (∃ row ∈ waiting, ∃ value ∈ row.values, ¬FitsWord value) ∧
      (after steps).written.flatten ++ waiting = steps.flatMap Step.rows ∧
      ((after (steps ++ [.flush, .add [⟨1, 1, 0, 5, 5, 0⟩]])).flush (.ok ())).2 =
        some (.overflow {}) := by
  obtain ⟨waiting, -, -, hkept, -, hfails, hstuck, -⟩ := rows_wait_or_are_written
    [.add [⟨1, 0, 0, 5, 5, 0⟩], .flush, .add [⟨wordLimit, 0, 0, 5, 5, 0⟩]]
  have hmisfit := hfails.1 ⟨.overflow {}, by decide +kernel⟩
  exact ⟨_, waiting, rfl, hmisfit, hkept, congrArg Prod.snd (hstuck hmisfit _).2.2⟩

end Recorder

end RiverPuzzle
