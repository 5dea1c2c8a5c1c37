import RiverPuzzle.Run.Recorder

/-!
# Recordings in groups

A recorder gets the rows of one tick after the other and writes those that wait as soon
as they are enough.  This module says which groups come of that without a recorder: a
group holds the rows of whole ticks and ends at the first tick, the very first one
apart, at which it has enough of them.  The main statements are that a recorder which
notes every tick and is flushed when it is full keeps to these groups, and that the
groups put together are the rows of all ticks.
-/

namespace RiverPuzzle

/-- The rows of the ticks from `first` to `last`, where `rows` gives those of one tick. -/
def rowsFrom (rows : Nat → List TraceRow) (first last : Nat) : List TraceRow :=
  (List.range' first (last + 1 - first)).flatMap rows

/-- The rows as a group, unless there are none. -/
def asGroup : List TraceRow → List (List TraceRow)
  | [] => []
  | row :: rest => [row :: rest]

section

variable {rows : Nat → List TraceRow} {first last : Nat}

theorem rowsFrom_self (rows : Nat → List TraceRow) (tick : Nat) :
    rowsFrom rows tick tick = rows tick := by
  simp [rowsFrom]

theorem rowsFrom_of_lt (hlt : last < first) : rowsFrom rows first last = [] := by
  have hcount : last + 1 - first = 0 := by omega
  simp [rowsFrom, hcount]

theorem rowsFrom_succ (hle : first ≤ last + 1) :
    rowsFrom rows first (last + 1) = rowsFrom rows first last ++ rows (last + 1) := by
  have hcount : last + 1 + 1 - first = last + 1 - first + 1 := by omega
  have hlast : first + (last + 1 - first) = last + 1 := by omega
  simp [rowsFrom, hcount, List.range'_concat, hlast]

theorem rowsFrom_append {stop : Nat} (hfirst : first ≤ stop + 1) (hlast : stop ≤ last) :
    rowsFrom rows first stop ++ rowsFrom rows (stop + 1) last = rowsFrom rows first last := by
  obtain ⟨more, rfl⟩ := Nat.exists_eq_add_of_le hlast
  induction more with
  | zero => simp [rowsFrom_of_lt (Nat.lt_succ_self stop)]
  | succ more ih =>
      have hih := ih (by omega)
      rw [← Nat.add_assoc, rowsFrom_succ (by omega), rowsFrom_succ (by omega), ← List.append_assoc,
        hih]

theorem mem_rowsFrom {row : TraceRow} :
    row ∈ rowsFrom rows first last ↔ ∃ tick, first ≤ tick ∧ tick ≤ last ∧ row ∈ rows tick := by
  simp only [rowsFrom, List.mem_flatMap, List.mem_range'_1]
  constructor
  · rintro ⟨tick, htick, hrow⟩
    exact ⟨tick, htick.1, by omega, hrow⟩
  · rintro ⟨tick, hfirst, hlast, hrow⟩
    exact ⟨tick, ⟨hfirst, by omega⟩, hrow⟩

theorem fits_rowsFrom (hfits : ∀ tick ≤ last, ∀ row ∈ rows tick, row.Fits) (first : Nat) :
    ∀ row ∈ rowsFrom rows first last, row.Fits := by
  intro row hrow
  obtain ⟨tick, -, hlast, hrow⟩ := mem_rowsFrom.1 hrow
  exact hfits tick hlast row hrow

theorem filter_rowsFrom_eq_nil (hticks : ∀ tick, ∀ row ∈ rows tick, row.tick = tick) {tick : Nat}
    (hout : tick < first ∨ last < tick) :
    (rowsFrom rows first last).filter (fun row => row.tick = (tick : Int)) = [] := by
  apply List.filter_eq_nil_iff.2
  intro row hrow
  obtain ⟨other, hfirst, hlast, hother⟩ := mem_rowsFrom.1 hrow
  rw [hticks other row hother, decide_eq_true_iff]
  omega

/-- The rows with the number of a tick are those of the tick. -/
theorem filter_rowsFrom (hticks : ∀ tick, ∀ row ∈ rows tick, row.tick = tick) {tick : Nat}
    (hfirst : first ≤ tick) (hlast : tick ≤ last) :
    (rowsFrom rows first last).filter (fun row => row.tick = (tick : Int)) = rows tick := by
  have hself : (rows tick).filter (fun row => row.tick = (tick : Int)) = rows tick := by
    apply List.filter_eq_self.2
    intro row hrow
    exact decide_eq_true (hticks tick row hrow)
  have hbefore : (rowsFrom rows first tick).filter (fun row => row.tick = (tick : Int)) = rows tick := by
    rcases Nat.lt_or_eq_of_le hfirst with hlt | rfl
    · obtain ⟨earlier, rfl⟩ := Nat.exists_eq_succ_of_ne_zero (Nat.ne_zero_of_lt hlt)
      rw [rowsFrom_succ hfirst, List.filter_append, hself,
        filter_rowsFrom_eq_nil hticks (.inr (Nat.lt_succ_self earlier)), List.nil_append]
    · rw [rowsFrom_self, hself]
  rw [← rowsFrom_append (Nat.le_succ_of_le hfirst) hlast, List.filter_append, hbefore,
    filter_rowsFrom_eq_nil hticks (.inl (Nat.lt_succ_self tick)), List.append_nil]

theorem flatten_asGroup (group : List TraceRow) : (asGroup group).flatten = group := by
  cases group <;> simp [asGroup]

theorem asGroup_of_ne_nil {group : List TraceRow} (hne : group ≠ []) : asGroup group = [group] := by
  cases group with
  | nil => exact absurd rfl hne
  | cons row rest => rfl

theorem mem_asGroup {group other : List TraceRow} :
    other ∈ asGroup group ↔ other = group ∧ group ≠ [] := by
  cases group <;> simp [asGroup]

end

/-- At no tick from `first` on and before `stop`, the very first one apart, are the rows
since `first` enough. -/
def TooFew (threshold : Int) (rows : Nat → List TraceRow) (first stop : Nat) : Prop :=
  ∀ tick, first ≤ tick → 1 ≤ tick → tick < stop → (rowsFrom rows first tick).length < threshold

/-- The groups of the ticks before `next`, each of which ends as soon as it has enough
rows. -/
inductive FullGroups (threshold : Int) (rows : Nat → List TraceRow) :
    (next : Nat) → List (List TraceRow) → Prop
  | start : FullGroups threshold rows 0 []
  | full {first stop : Nat} {groups : List (List TraceRow)}
      (hbefore : FullGroups threshold rows first groups) (hfirst : first ≤ stop)
      (hone : 1 ≤ stop) (hfew : TooFew threshold rows first stop)
      (henough : threshold ≤ (rowsFrom rows first stop).length) :
      FullGroups threshold rows (stop + 1) (groups ++ asGroup (rowsFrom rows first stop))

/-- The groups of a run whose last tick is `last`: those that have enough rows, and one
of the rows that are left then. -/
inductive Grouped (threshold : Int) (rows : Nat → List TraceRow) (last : Nat) :
    List (List TraceRow) → Prop
  | close {first : Nat} {groups : List (List TraceRow)}
      (hfull : FullGroups threshold rows first groups) (hfirst : first ≤ last + 1)
      (hfew : TooFew threshold rows first (last + 1)) :
      Grouped threshold rows last (groups ++ asGroup (rowsFrom rows first last))

section

variable {threshold : Int} {rows : Nat → List TraceRow} {next last : Nat}
  {groups : List (List TraceRow)}

theorem FullGroups.flatten (h : FullGroups threshold rows next groups) (hnext : next ≤ last + 1) :
    groups.flatten ++ rowsFrom rows next last = rowsFrom rows 0 last := by
  induction h generalizing last with
  | start => rfl
  | full hbefore hfirst hone hfew henough ih =>
      rw [List.flatten_append, flatten_asGroup, List.append_assoc,
        rowsFrom_append (by omega) (by omega)]
      exact ih (by omega)

theorem FullGroups.enough (h : FullGroups threshold rows next groups) :
    ∀ group ∈ groups, threshold ≤ group.length := by
  induction h with
  | start => simp
  | full hbefore hfirst hone hfew henough ih =>
      intro group hgroup
      rcases List.mem_append.1 hgroup with hold | hnew
      · exact ih group hold
      · rw [(mem_asGroup.1 hnew).1]
        exact henough

theorem FullGroups.ne_nil (h : FullGroups threshold rows next groups) :
    ∀ group ∈ groups, group ≠ [] := by
  induction h with
  | start => simp
  | full hbefore hfirst hone hfew henough ih =>
      intro group hgroup
      rcases List.mem_append.1 hgroup with hold | hnew
      · exact ih group hold
      · obtain ⟨rfl, hne⟩ := mem_asGroup.1 hnew
        exact hne

/-- The groups are the rows of all ticks, in order. -/
theorem Grouped.flatten (h : Grouped threshold rows last groups) :
    groups.flatten = rowsFrom rows 0 last := by
  obtain ⟨hfull, hfirst, hfew⟩ := h
  rw [List.flatten_append, flatten_asGroup]
  exact hfull.flatten hfirst

/-- Every group but the last has enough rows. -/
theorem Grouped.enough (h : Grouped threshold rows last groups) :
    ∀ group ∈ groups.dropLast, threshold ≤ group.length := by
  obtain ⟨hfull, hfirst, hfew⟩ := h
  rename_i first full
  intro group hgroup
  apply hfull.enough
  cases hrest : rowsFrom rows first last with
  | nil =>
      rw [hrest, asGroup, List.append_nil] at hgroup
      exact full.dropLast_sublist.subset hgroup
  | cons row rest =>
      rw [hrest, asGroup, List.dropLast_concat] at hgroup
      exact hgroup

theorem Grouped.eq_nil_iff (h : Grouped threshold rows last groups) :
    groups = [] ↔ rowsFrom rows 0 last = [] := by
  rw [← h.flatten, List.flatten_eq_nil_iff]
  constructor
  · rintro rfl
    simp
  · intro hall
    obtain ⟨hfull, hfirst, hfew⟩ := h
    rw [List.eq_nil_iff_forall_not_mem]
    intro group hgroup
    have hnil := hall group hgroup
    rcases List.mem_append.1 hgroup with hold | hnew
    · exact hfull.ne_nil group hold hnil
    · obtain ⟨rfl, hne⟩ := mem_asGroup.1 hnew
      exact hne hnil

theorem Grouped.flatten_eq_nil_iff (h : Grouped threshold rows last groups) :
    groups = [] ↔ groups.flatten = [] := by
  rw [h.eq_nil_iff, h.flatten]

end

theorem TraceRow.not_fits_iff {row : TraceRow} :
    ¬row.Fits ↔ ∃ value ∈ row.values, ¬FitsWord value := by
  simp [Fits]

namespace Recorder

variable {recorder : Recorder}

/-- The groups that have been written. -/
def written (recorder : Recorder) : List (List TraceRow) :=
  (recorder.groups.getD #[]).toList.map Array.toList

/-- No file has been opened for nothing. -/
def Frugal (recorder : Recorder) : Prop :=
  recorder.groups ≠ some #[]

theorem pending_add (recorder : Recorder) (rows : List TraceRow) :
    (recorder.add rows).pending.toList = recorder.pending.toList ++ rows := by
  rw [add]
  induction rows generalizing recorder with
  | nil => simp
  | cons row rest ih =>
      rw [List.foldl_cons, ih { recorder with pending := recorder.pending.push row },
        Columns.toList_push, List.append_assoc, List.singleton_append]

theorem content?_eq (hfrugal : recorder.Frugal) :
    recorder.content? =
      if recorder.written = [] then none else some (.trace recorder.written) := by
  obtain ⟨pending, groups⟩ := recorder
  cases groups with
  | none => rfl
  | some groups =>
      have hne : groups ≠ #[] := fun h => hfrugal (congrArg some h)
      simp [content?, written, hne]

/-- What comes of a flush while rows wait: nothing is to be done, all of them are written as one
group, a number does not fit, or the file cannot be opened. -/
inductive Flushed (recorder : Recorder) (door : Except TableFault Unit)
    (waiting : List TraceRow) : Recorder × Option FlushFault → Prop
  | idle (hnone : waiting = []) : Flushed recorder door waiting (recorder, none)
  | wrote {next : Recorder} (hsome : waiting ≠ []) (hfits : ∀ row ∈ waiting, row.Fits)
      (hempty : next.pending = .empty) (hwritten : next.written = recorder.written ++ [waiting])
      (hopen : next.isOpen = true) : Flushed recorder door waiting (next, none)
  | failed (hmisfit : ∃ row ∈ waiting, ∃ value ∈ row.values, ¬FitsWord value) :
      Flushed recorder door waiting (recorder, some (.overflow {}))
  | shut {fault : TableFault} (hsome : waiting ≠ []) (hfits : ∀ row ∈ waiting, row.Fits)
      (hdoor : door = .error fault) : Flushed recorder door waiting (recorder, some (.table fault))

theorem flushed (recorder : Recorder) (door : Except TableFault Unit) :
    recorder.Flushed door recorder.pending.toList (recorder.flush door) := by
  unfold flush
  by_cases hempty : recorder.pending.isEmpty = true
  · rw [if_pos hempty]
    exact .idle (Columns.isEmpty_iff.1 hempty)
  · have hne : recorder.pending.toList ≠ [] := fun hnil => hempty (Columns.isEmpty_iff.2 hnil)
    rw [if_neg hempty]
    by_cases hfits : ∀ row ∈ recorder.pending.toList, row.Fits
    · rw [if_pos hfits]
      rcases hgroups : recorder.groups with _ | groups
      · rcases door with fault | _
        · exact .shut hne hfits rfl
        · exact .wrote hne hfits rfl (by simp [written, hgroups]) rfl
      · exact .wrote hne hfits rfl (by simp [written, hgroups]) rfl
    · rw [if_neg hfits]
      simp only [Classical.not_forall, TraceRow.not_fits_iff] at hfits
      obtain ⟨row, hrow, hmisfit⟩ := hfits
      exact .failed ⟨row, hrow, hmisfit⟩

/-- A flush that does not fail adds the rows that wait to the groups, unless there are none. -/
theorem flush_inv {door : Except TableFault Unit} {after : Recorder}
    (hflush : recorder.flush door = (after, none)) (hfrugal : recorder.Frugal) :
    after.pending.toList = [] ∧
      after.written = recorder.written ++ asGroup recorder.pending.toList ∧ after.Frugal := by
  have hflushed := recorder.flushed door
  rw [hflush] at hflushed
  cases hflushed with
  | idle hnone => exact ⟨hnone, by simp [hnone, asGroup], hfrugal⟩
  | wrote hsome hfits hempty hwritten hopen =>
      refine ⟨by rw [hempty, Columns.toList_empty], by rw [hwritten, asGroup_of_ne_nil hsome], ?_⟩
      intro hgroups
      simp [written, hgroups] at hwritten

/-- Rows that fit are written, if the file can be opened. -/
theorem exists_flush (hfits : ∀ row ∈ recorder.pending.toList, row.Fits) :
    ∃ after, recorder.flush (.ok ()) = (after, none) := by
  have hflushed := recorder.flushed (.ok ())
  generalize recorder.flush (.ok ()) = result at hflushed
  cases hflushed with
  | idle hnone => exact ⟨_, rfl⟩
  | wrote hsome hfits hempty hwritten hopen => exact ⟨_, rfl⟩
  | failed hmisfit =>
      obtain ⟨row, hrow, hbad⟩ := hmisfit
      exact absurd (hfits row hrow) (TraceRow.not_fits_iff.2 hbad)
  | shut hsome hfits hdoor => cases hdoor

/-- With a number among the rows that wait that does not fit, every flush fails. -/
theorem flush_of_misfit (hmisfit : ∃ row ∈ recorder.pending.toList, ¬row.Fits)
    (door : Except TableFault Unit) :
    recorder.flush door = (recorder, some (.overflow {})) := by
  obtain ⟨row, hrow, hbad⟩ := hmisfit
  have hflushed := recorder.flushed door
  generalize recorder.flush door = result at hflushed
  cases hflushed with
  | idle hnone =>
      rw [hnone] at hrow
      cases hrow
  | wrote hsome hfits hempty hwritten hopen => exact absurd (hfits row hrow) hbad
  | failed _ => rfl
  | shut hsome hfits hdoor => exact absurd (hfits row hrow) hbad

end Recorder

/-- The recorder has noted the ticks up to `last`: full groups of those before `first`
are written, and the rows since then wait, not yet enough of them. -/
structure Recording (threshold : Int) (rows : Nat → List TraceRow) (first last : Nat)
    (recorder : Recorder) : Prop where
  frugal : recorder.Frugal
  first_le : first ≤ last + 1
  full : FullGroups threshold rows first recorder.written
  pending : recorder.pending.toList = rowsFrom rows first last
  few : TooFew threshold rows first (last + 1)

namespace Recording

variable {threshold : Int} {rows : Nat → List TraceRow} {first last : Nat} {recorder : Recorder}

/-- The rows of the very first tick wait, however many they are. -/
theorem start (threshold : Int) (rows : Nat → List TraceRow) :
    Recording threshold rows 0 0 (Recorder.new.add (rows 0)) where
  frugal := by simp [Recorder.Frugal, Recorder.new, Recorder.add]
  first_le := Nat.zero_le 1
  full := .start
  pending := by simp [Recorder.pending_add, rowsFrom_self, Recorder.new, Columns.toList_empty]
  few := by
    intro tick _ hone hlt
    omega

theorem pending_add (h : Recording threshold rows first last recorder) :
    (recorder.add (rows (last + 1))).pending.toList = rowsFrom rows first (last + 1) := by
  rw [Recorder.pending_add, h.pending, rowsFrom_succ h.first_le]

/-- When there are too few rows they wait on. -/
theorem wait (h : Recording threshold rows first last recorder)
    (hfew : (rowsFrom rows first (last + 1)).length < threshold) :
    Recording threshold rows first (last + 1) (recorder.add (rows (last + 1))) where
  frugal := h.frugal
  first_le := Nat.le_succ_of_le h.first_le
  full := h.full
  pending := h.pending_add
  few := by
    intro tick hfirst hone hlt
    rcases Nat.lt_succ_iff_lt_or_eq.1 hlt with hlt | rfl
    · exact h.few tick hfirst hone hlt
    · exact hfew

/-- When there are enough rows they are written as one group. -/
theorem flushed (h : Recording threshold rows first last recorder)
    {door : Except TableFault Unit} {after : Recorder}
    (hflush : (recorder.add (rows (last + 1))).flush door = (after, none))
    (henough : threshold ≤ (rowsFrom rows first (last + 1)).length) :
    Recording threshold rows (last + 2) (last + 1) after := by
  obtain ⟨hempty, hwritten, hfrugal⟩ := Recorder.flush_inv hflush h.frugal
  refine ⟨hfrugal, Nat.le_refl _, ?_, ?_, ?_⟩
  · rw [hwritten, h.pending_add]
    exact h.full.full h.first_le (Nat.succ_pos last) h.few henough
  · rw [hempty, rowsFrom_of_lt (Nat.lt_succ_self _)]
  · intro tick hfirst _ hlt
    omega

theorem exists_flush (h : Recording threshold rows first last recorder)
    (hfits : ∀ tick ≤ last + 1, ∀ row ∈ rows tick, row.Fits) :
    ∃ after, (recorder.add (rows (last + 1))).flush (.ok ()) = (after, none) := by
  apply Recorder.exists_flush
  rw [h.pending_add]
  exact fits_rowsFrom hfits first

/-- At the end of a run the rows that are left are written. -/
theorem finished (h : Recording threshold rows first last recorder)
    {door : Except TableFault Unit} {after : Recorder}
    (hflush : recorder.flush door = (after, none)) :
    Grouped threshold rows last after.written ∧ after.Frugal := by
  obtain ⟨-, hwritten, hfrugal⟩ := Recorder.flush_inv hflush h.frugal
  refine ⟨?_, hfrugal⟩
  rw [hwritten, h.pending]
  exact .close h.full h.first_le h.few

theorem exists_finish (h : Recording threshold rows first last recorder)
    (hfits : ∀ tick ≤ last, ∀ row ∈ rows tick, row.Fits) :
    ∃ after, recorder.flush (.ok ()) = (after, none) := by
  apply Recorder.exists_flush
  rw [h.pending]
  exact fits_rowsFrom hfits first

end Recording

end RiverPuzzle
