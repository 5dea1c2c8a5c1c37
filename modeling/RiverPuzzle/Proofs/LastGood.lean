import RiverPuzzle.Proofs.Chronicle
import RiverPuzzle.Proofs.Reading

/-!
# The last good program

Every text that a player writes is compiled, but only a text with an instruction
in its program changes what the salmon follow.  This module compares a session with
the list of texts written so far.  The main statement: whatever the player does, the
status and the rejection say what compiling the newest text comes to, and the active
program, which is also that of the river, is that of the newest text that works.
-/

namespace RiverPuzzle

namespace Program

/-- The program that a text describes, if it has an instruction. -/
def working? (source : List Char) : Option Program :=
  match ofText source with
  | .ok program => if program.isEmpty then none else some program
  | .error _ => none

theorem working?_eq_some_iff {source : List Char} {program : Program} :
    working? source = some program ↔ ofText source = .ok program ∧ program.isEmpty = false := by
  unfold working?
  cases ofText source with
  | error rejection => simp
  | ok found =>
      simp only [Except.ok.injEq]
      constructor
      · intro h
        split at h
        · cases h
        · rename_i hempty
          cases h
          exact ⟨rfl, Bool.eq_false_iff.2 hempty⟩
      · rintro ⟨rfl, hempty⟩
        rw [hempty, if_neg Bool.false_ne_true]

theorem mark_source_of_ofText {source : List Char} {rejection : Rejection}
    (h : ofText source = .error rejection) : rejection.mark.source = source :=
  parse_mark_source (ofText_eq_error_iff.1 h)

end Program

/-- What compiling a text comes to, as a status and a rejection. -/
inductive Verdict : Except Rejection Program → CompileStatus → Option Rejection → Prop
  | rejected (rejection : Rejection) : Verdict (.error rejection) .rejected (some rejection)
  | empty {program : Program} (hempty : program.isEmpty = true) :
      Verdict (.ok program) .empty none
  | good {program : Program} (hempty : program.isEmpty = false) :
      Verdict (.ok program) .good none

namespace Verdict

variable {compiled : Except Rejection Program} {status : CompileStatus}
  {rejection : Option Rejection}

theorem status_rejected_iff (h : Verdict compiled status rejection) :
    status = .rejected ↔ ∃ fault, compiled = .error fault := by
  cases h <;> simp

theorem status_empty_iff (h : Verdict compiled status rejection) :
    status = .empty ↔ compiled = .ok #[] := by
  cases h with
  | rejected fault => simp
  | empty hempty => simpa using hempty
  | good hempty => simpa using hempty

theorem status_good_iff (h : Verdict compiled status rejection) :
    status = .good ↔ ∃ program, compiled = .ok program ∧ program.isEmpty = false := by
  cases h with
  | rejected fault => simp
  | empty hempty => simpa using hempty
  | good hempty => simpa using hempty

theorem rejection_iff (h : Verdict compiled status rejection) (fault : Rejection) :
    rejection = some fault ↔ compiled = .error fault := by
  cases h <;> simp

theorem rejection_eq_none (h : Verdict compiled status rejection) (hstatus : status ≠ .rejected) :
    rejection = none := by
  cases h with
  | rejected fault => exact absurd rfl hstatus
  | empty hempty => rfl
  | good hempty => rfl

end Verdict

namespace River

theorem program_of_tick {river after : River} (h : river.tick = .ok after) :
    after.program = river.program := by
  unfold tick at h
  split at h <;> cases h
  rfl

theorem program_of_tick_error {river : River} {interruption : Interruption}
    (h : river.tick = .error interruption) : interruption.river.program = river.program := by
  unfold tick at h
  split at h <;> cases h
  rfl

end River

/-- The text that an action puts in place of the source. -/
def Action.text? : Action → Option (List Char)
  | .edit source => some source
  | _ => none

namespace Session

/-- The session after several actions, one after the other. -/
def after (session : Session) (actions : List Action) : Session :=
  actions.foldl (fun session action => (session.perform action).session) session

/-- The texts of a new session and of the actions in it, oldest first. -/
def texts (actions : List Action) : List (List Char) :=
  firstSource :: actions.filterMap Action.text?

/-- The session is that of somebody who has written these texts, oldest first: its
source is the newest, its status and rejection are about that, and its program is
the newest that works. -/
structure Honest (written : List (List Char)) (session : Session) : Prop where
  source : written.getLast? = some session.source
  verdict : Verdict (Program.ofText session.source) session.status session.rejection
  program : written.reverse.findSome? Program.working? = some session.program
  river : session.river.program = session.program

variable {session : Session} {written : List (List Char)}

theorem Honest.size_closed (h : session.Honest written) :
    0 < session.program.size ∧ session.program.Closed := by
  obtain ⟨text, -, hworks⟩ := List.exists_of_findSome?_eq_some h.program
  obtain ⟨htext, hempty⟩ := Program.working?_eq_some_iff.1 hworks
  exact ⟨Program.isEmpty_eq_false_iff.1 hempty, Program.closed_of_ofText htext⟩

/-- When the newest text works, the active program is its own. -/
theorem Honest.program_eq (h : session.Honest written) {program : Program}
    (hworks : Program.working? session.source = some program) : session.program = program := by
  obtain ⟨older, rfl⟩ := List.getLast?_eq_some_iff.1 h.source
  have hprogram := h.program
  rw [List.reverse_append, List.reverse_singleton, List.singleton_append,
    List.findSome?_cons, hworks] at hprogram
  exact (Option.some.inj hprogram).symm

/-- A text that does not work is only reported on. -/
theorem Honest.report (h : session.Honest written) {source : List Char} {status : CompileStatus}
    {rejection : Option Rejection} (hworks : Program.working? source = none)
    (hverdict : Verdict (Program.ofText source) status rejection) :
    Honest (written ++ [source])
      { session with source := source, status := status, rejection := rejection } where
  source := by simp
  verdict := hverdict
  program := by simpa [hworks] using h.program
  river := h.river

/-- A text that works takes over, whatever there was before it. -/
theorem honest_edit {source : List Char} {program : Program}
    (hworks : Program.working? source = some program) :
    Honest (written ++ [source]) (session.perform (.edit source)).session := by
  obtain ⟨hcompile, hempty⟩ := Program.working?_eq_some_iff.1 hworks
  have hsize := Program.isEmpty_eq_false_iff.1 hempty
  have hclosed := Program.closed_of_ofText hcompile
  have hverdict : Verdict (Program.ofText source) .good none := hcompile ▸ .good hempty
  simp only [perform, edit, hcompile, hempty, Bool.false_eq_true, if_false]
  rw [restartThen_eq _ hsize hclosed]
  exact ⟨by simp, hverdict, by simp [hworks], rfl⟩

theorem Honest.edit (h : session.Honest written) (source : List Char) :
    Honest (written ++ [source]) (session.perform (.edit source)).session := by
  cases hcompile : Program.ofText source with
  | error rejection =>
      simp only [perform, Session.edit, hcompile]
      exact h.report (by simp [Program.working?, hcompile]) (hcompile ▸ .rejected rejection)
  | ok program =>
      cases hempty : program.isEmpty with
      | true =>
          simp only [perform, Session.edit, hcompile, hempty, if_true]
          exact h.report (by simp [Program.working?, hcompile, hempty])
            (hcompile ▸ .empty hempty)
      | false => exact honest_edit (Program.working?_eq_some_iff.2 ⟨hcompile, hempty⟩)

theorem Honest.restartThen (h : session.Honest written) (reply : Reply) (log : List LogRecord) :
    Honest written (session.restartThen reply log).session := by
  rw [restartThen_eq session h.size_closed.1 h.size_closed.2]
  exact ⟨h.source, h.verdict, h.program, rfl⟩

theorem Honest.switch (h : session.Honest written) (number : Int) :
    Honest written (session.switch number).session := by
  unfold Session.switch
  split
  · apply Honest.restartThen
    exact ⟨h.source, h.verdict, h.program, h.river⟩
  · exact h

theorem Honest.tick (h : session.Honest written) : Honest written session.tick.session := by
  unfold Session.tick
  split
  · cases htick : session.river.tick with
    | error interruption =>
        have hprogram := (River.program_of_tick_error htick).trans h.river
        exact ⟨h.source, h.verdict, h.program, hprogram⟩
    | ok river =>
        have hprogram := (River.program_of_tick htick).trans h.river
        cases hcomplete : river.isComplete with
        | true =>
            simp only [hcomplete, if_true]
            exact ⟨h.source, h.verdict, h.program, hprogram⟩
        | false =>
            simp only [hcomplete, Bool.false_eq_true, if_false]
            exact ⟨h.source, h.verdict, h.program, hprogram⟩
  · exact h

/-- Whatever the player does, the session stays honest about the texts. -/
theorem Honest.perform (h : session.Honest written) (action : Action) :
    Honest (written ++ action.text?.toList) (session.perform action).session := by
  cases action with
  | edit source => exact h.edit source
  | tick => simpa [Action.text?, Session.perform] using h.tick
  | switch number => simpa [Action.text?, Session.perform] using h.switch number
  | restart => simpa [Action.text?, Session.perform] using h.restartThen .done []
  | toggle =>
      simp only [Action.text?, Option.toList_none, List.append_nil]
      exact ⟨h.source, h.verdict, h.program, h.river⟩
  | setTile cell tile =>
      simp only [Action.text?, Option.toList_none, List.append_nil]
      exact ⟨h.source, h.verdict, h.program, h.river⟩

theorem Honest.after (h : session.Honest written) (actions : List Action) :
    Honest (written ++ actions.filterMap Action.text?) (session.after actions) := by
  induction actions generalizing session written with
  | nil => simpa [Session.after] using h
  | cons action rest ih =>
      have hrest := ih (h.perform action)
      have htexts : (action :: rest).filterMap Action.text? =
          action.text?.toList ++ rest.filterMap Action.text? := by
        cases htext : action.text? <;> simp [htext]
      rw [htexts, ← List.append_assoc]
      exact hrest

theorem working?_firstSource : Program.working? firstSource = some firstProgram := by
  decide +kernel

/-- A session can be started on any levels, and is then honest about its first text. -/
theorem exists_start_honest {levels : List Level} (hlevels : levels ≠ []) :
    ∃ session, start levels = .ok session ∧ Honest [firstSource] session := by
  obtain ⟨level, rest, rfl⟩ := List.exists_cons_of_ne_nil hlevels
  have hsize : 0 < firstProgram.size := by decide
  obtain ⟨hcompile, hempty⟩ := Program.working?_eq_some_iff.1 working?_firstSource
  have hverdict : Verdict (Program.ofText firstSource) .good none := hcompile ▸ .good hempty
  refine ⟨_, by rw [start, River.load_eq_fresh hsize firstProgram_closed level], ?_⟩
  exact ⟨rfl, hverdict, by simp [working?_firstSource], rfl⟩

/-- After every history of actions the source is the newest text, the status and the
rejection are those of compiling it, and the active program, which the river has too, is
that of the newest text that works. -/
theorem status_of_history (levels : List Level) (hlevels : levels ≠ []) :
    ∃ first, start levels = .ok first ∧ ∀ (actions : List Action) (now : Session),
      first.after actions = now →
      (texts actions).getLast? = some now.source ∧
      (now.status = .rejected ↔ ∃ rejection, Program.ofText now.source = .error rejection) ∧
      (∀ rejection, now.rejection = some rejection ↔
        Program.ofText now.source = .error rejection) ∧
      (∀ rejection, now.rejection = some rejection → rejection.mark.source = now.source) ∧
      (now.status = .empty ↔ Program.ofText now.source = .ok #[]) ∧
      (now.status = .good ↔
        ∃ program, Program.ofText now.source = .ok program ∧ program.isEmpty = false) ∧
      (now.status = .good → Program.ofText now.source = .ok now.program) ∧
      (now.status ≠ .rejected → now.rejection = none) ∧
      (texts actions).reverse.findSome? Program.working? = some now.program ∧
      now.river.program = now.program := by
  obtain ⟨first, hstart, hfirst⟩ := exists_start_honest hlevels
  refine ⟨first, hstart, ?_⟩
  rintro actions now rfl
  have hnow : Honest (texts actions) (first.after actions) := hfirst.after actions
  have hrejection := hnow.verdict.rejection_iff
  refine ⟨hnow.source, hnow.verdict.status_rejected_iff, hrejection, ?_,
    hnow.verdict.status_empty_iff, hnow.verdict.status_good_iff, ?_,
    hnow.verdict.rejection_eq_none, hnow.program, hnow.river⟩
  · intro rejection hsome
    exact Program.mark_source_of_ofText ((hrejection rejection).1 hsome)
  · intro hgood
    obtain ⟨program, hcompile, hempty⟩ := hnow.verdict.status_good_iff.1 hgood
    rw [hnow.program_eq (Program.working?_eq_some_iff.2 ⟨hcompile, hempty⟩)]
    exact hcompile

/-- A text that is refused leaves the one before it at work. -/
theorem status_of_history_pond :
    [Level.pond] ≠ [] ∧ ∃ first, start [Level.pond] = .ok first ∧ ∀ now : Session,
      first.after [.edit "move up;".toList, .toggle, .tick, .edit "loop".toList] = now →
      now.source = "loop".toList ∧ now.status = .rejected ∧
        now.program = #[.move .up] ∧ now.river.program = #[.move .up] := by
  have hlevels : [Level.pond] ≠ [] := List.cons_ne_nil _ _
  have hrefused : (Program.ofText "loop".toList).isOk = false := by decide +kernel
  have hworks : (texts [.edit "move up;".toList, .toggle, .tick,
      .edit "loop".toList]).reverse.findSome? Program.working? = some #[.move .up] := by
    decide +kernel
  obtain ⟨first, hstart, hhistory⟩ := status_of_history [Level.pond] hlevels
  refine ⟨hlevels, first, hstart, fun now hnow => ?_⟩
  obtain ⟨hsource, hrejected, -, -, -, -, -, -, hprogram, hriver⟩ := hhistory _ now hnow
  have hnewest : now.source = "loop".toList := (Option.some.inj hsource).symm
  have hactive : now.program = #[.move .up] := Option.some.inj (hprogram.symm.trans hworks)
  refine ⟨hnewest, hrejected.2 ?_, hactive, hriver.trans hactive⟩
  cases hcompile : Program.ofText "loop".toList with
  | error rejection => exact ⟨rejection, hnewest ▸ hcompile⟩
  | ok program =>
      rw [hcompile] at hrefused
      cases hrefused

end Session

end RiverPuzzle
