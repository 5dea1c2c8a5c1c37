import RiverPuzzle.Command.Line
import RiverPuzzle.Proofs.PlainNumeral

/-!
# The printed report

The report is printed as an object with a field on each line.  This module reads the fields back
from the text: the name of a field stands between double quotes, and its value behind a colon and
up to the comma or the end of the line.  No value of a report has a character that would end it
before that.
-/

namespace RiverPuzzle

namespace Text

/-- The name and the value on a line of an object. -/
def field? (line : List Char) : Option (String × String) :=
  match line.splitOn '"' with
  | [_, name, value] =>
      some (String.ofList name, String.ofList ((value.drop 2).takeWhile fun char => char != ','))
  | _ => none

/-- The fields of an object that is printed with a field on each line. -/
def fields (printed : String) : List (String × String) :=
  (printed.toList.splitOn '\n').filterMap field?

/-- The text has no character that ends a name, a value or a line. -/
structure Enclosed (text : List Char) : Prop where
  quote : '"' ∉ text
  comma : ',' ∉ text
  newline : '\n' ∉ text

/-- A line with a field, and a comma behind it or nothing. -/
def fieldLine (field : String × String) (ending : List Char) : List Char :=
  "  \"".toList ++ field.1.toList ++ "\": ".toList ++ field.2.toList ++ ending

/-- The lines of fields, with a comma behind each but the last. -/
def fieldLines : List (String × String) → List (List Char)
  | [] => []
  | [field] => [fieldLine field []]
  | field :: next :: rest => fieldLine field [','] :: fieldLines (next :: rest)

section

variable {field : String × String} {fields : List (String × String)} {ending : List Char}

theorem field?_fieldLine (hname : Enclosed field.1.toList) (hvalue : Enclosed field.2.toList)
    (hending : ending = [','] ∨ ending = []) : field? (fieldLine field ending) = some field := by
  have hquote : '"' ∉ [':', ' '] ++ (field.2.toList ++ ending) := by
    rcases hending with rfl | rfl <;> simp [hvalue.quote]
  have hline : fieldLine field ending = [' ', ' '] ++ '"' ::
      (field.1.toList ++ '"' :: ([':', ' '] ++ (field.2.toList ++ ending))) := by
    simp [fieldLine]
  -- The comma is the only character that is dropped behind the value.
  have hkept : (field.2.toList ++ ending).takeWhile (fun char => char != ',') =
      field.2.toList := by
    have hall : ∀ char ∈ field.2.toList, (char != ',') = true :=
      fun char hchar => bne_iff_ne.2 fun heq => hvalue.comma (heq ▸ hchar)
    rw [List.takeWhile_append_of_pos hall]
    rcases hending with rfl | rfl
    · rw [List.takeWhile_cons_of_neg (by decide), List.append_nil]
    · rw [List.takeWhile_nil, List.append_nil]
  rw [field?, hline, List.splitOn_append_cons_self_of_not_mem (by decide),
    List.splitOn_append_cons_self_of_not_mem hname.quote, List.splitOn_eq_singleton hquote]
  simp only [List.cons_append, List.nil_append, List.drop_succ_cons, List.drop_zero, hkept,
    String.ofList_toList]

theorem newline_notMem_fieldLine (hname : Enclosed field.1.toList)
    (hvalue : Enclosed field.2.toList) (hending : ending = [','] ∨ ending = []) :
    '\n' ∉ fieldLine field ending := by
  rcases hending with rfl | rfl <;> simp [fieldLine, hname.newline, hvalue.newline]

/-- The lines of fields are read back one by one. -/
theorem filterMap_fieldLines
    (h : ∀ field ∈ fields, Enclosed field.1.toList ∧ Enclosed field.2.toList) :
    (fieldLines fields).filterMap field? = fields ∧ ∀ line ∈ fieldLines fields, '\n' ∉ line := by
  fun_induction fieldLines fields with
  | case1 => exact ⟨rfl, nofun⟩
  | case2 field =>
      obtain ⟨hname, hvalue⟩ := h field (List.mem_singleton_self field)
      rw [List.filterMap_cons_some (field?_fieldLine hname hvalue (.inr rfl))]
      exact ⟨rfl, List.forall_mem_singleton.2 (newline_notMem_fieldLine hname hvalue (.inr rfl))⟩
  | case3 field next rest ih =>
      obtain ⟨hfirst, hrest⟩ := List.forall_mem_cons.1 h
      obtain ⟨hfields, hlines⟩ := ih hrest
      rw [List.filterMap_cons_some (field?_fieldLine hfirst.1 hfirst.2 (.inl rfl)), hfields]
      exact ⟨rfl, List.forall_mem_cons.2
        ⟨newline_notMem_fieldLine hfirst.1 hfirst.2 (.inl rfl), hlines⟩⟩

/-- An object with a field on each line has these fields. -/
theorem fields_of_lines {printed : String}
    (h : ∀ field ∈ fields, Enclosed field.1.toList ∧ Enclosed field.2.toList)
    (hprinted : printed.toList =
      ['\n'].intercalate (['\x7b'] :: (fieldLines fields ++ [['\x7d'], []]))) :
    Text.fields printed = fields := by
  obtain ⟨hfields, hlines⟩ := filterMap_fieldLines h
  have hends : ∀ line ∈ [['\x7d'], []], '\n' ∉ line := by decide
  have hnewline : ∀ line ∈ ['\x7b'] :: (fieldLines fields ++ [['\x7d'], []]), '\n' ∉ line := by
    intro line hline
    rcases List.mem_cons.1 hline with rfl | hline
    · decide
    · rcases List.mem_append.1 hline with hline | hclosing
      · exact hlines line hline
      · exact hends line hclosing
  rw [Text.fields, hprinted, List.splitOn_intercalate '\n' hnewline (List.cons_ne_nil _ _),
    List.filterMap_cons_none (by decide), List.filterMap_append, hfields]
  exact List.append_nil fields

end

theorem enclosed_toString (number : Int) : Enclosed (toString number).toList := by
  have hmissing {char : Char} (hsign : char ≠ '-') (hdigit : char.isDigit = false) :
      char ∉ (toString number).toList := by
    intro hchar
    rcases isDigit_of_mem_toString hchar with heq | htrue
    · exact hsign heq
    · rw [hdigit] at htrue
      cases htrue
  exact ⟨hmissing (by decide) (by decide), hmissing (by decide) (by decide),
    hmissing (by decide) (by decide)⟩

end Text

namespace RunReport

open Text

/-- The fields of a report on a program of some length. -/
def fields (report : RunReport) (programLength : Nat) : List (String × String) :=
  [("level", toString report.level), ("program_length", toString programLength),
    ("completed", truthText report.completed), ("ticks", toString report.ticks),
    ("remaining_agents", toString report.remaining)]

theorem enclosed_truthText (truth : Bool) : Enclosed (truthText truth).toList := by
  cases truth <;> constructor <;> decide

theorem enclosed_fields (report : RunReport) (programLength : Nat) :
    ∀ field ∈ report.fields programLength,
      Enclosed field.1.toList ∧ Enclosed field.2.toList := by
  have hnames : ∀ name ∈ ["level", "program_length", "completed", "ticks", "remaining_agents"],
      Enclosed name.toList := by
    intro name hname
    constructor <;> revert name <;> decide
  have hvalues : ∀ value ∈ (report.fields programLength).map Prod.snd, Enclosed value.toList := by
    simp only [fields, List.map_cons, List.map_nil, List.forall_mem_cons]
    exact ⟨enclosed_toString report.level, enclosed_toString programLength,
      enclosed_truthText report.completed, enclosed_toString report.ticks,
      enclosed_toString report.remaining, nofun⟩
  intro field hfield
  exact ⟨hnames field.1 (List.mem_map_of_mem hfield), hvalues field.2 (List.mem_map_of_mem hfield)⟩

theorem toList_printed (report : RunReport) (programLength : Nat) :
    (report.printed programLength).toList =
      ['\n'].intercalate (['\x7b'] :: (fieldLines (report.fields programLength) ++
        [['\x7d'], []])) := by
  -- The pieces of the text are cut where a line or a name ends, and then both sides are the same.
  have hprinted : report.printed programLength = "\x7b\n" ++ "  \"level\": " ++
      toString report.level ++ ",\n" ++ "  \"program_length\": " ++ toString programLength ++
      ",\n" ++ "  \"completed\": " ++ truthText report.completed ++ ",\n" ++ "  \"ticks\": " ++
      toString report.ticks ++ ",\n" ++ "  \"remaining_agents\": " ++
      toString report.remaining ++ "\n" ++ "\x7d\n" := rfl
  have hopening : "\x7b\n".toList = ['\x7b'] ++ ['\n'] := by decide
  have hlevel : "  \"level\": ".toList = "  \"".toList ++ "level".toList ++ "\": ".toList := by
    decide
  have hlength : "  \"program_length\": ".toList =
      "  \"".toList ++ "program_length".toList ++ "\": ".toList := by decide
  have hcompleted : "  \"completed\": ".toList =
      "  \"".toList ++ "completed".toList ++ "\": ".toList := by decide
  have hticks : "  \"ticks\": ".toList = "  \"".toList ++ "ticks".toList ++ "\": ".toList := by
    decide
  have hremaining : "  \"remaining_agents\": ".toList =
      "  \"".toList ++ "remaining_agents".toList ++ "\": ".toList := by decide
  have hcomma : ",\n".toList = [','] ++ ['\n'] := by decide
  have hnewline : "\n".toList = [] ++ ['\n'] := by decide
  have hclosing : "\x7d\n".toList = ['\x7d'] ++ ['\n'] := by decide
  simp only [hprinted, String.toList_append, hopening, hlevel, hlength, hcompleted, hticks,
    hremaining, hcomma, hnewline, hclosing, fields, fieldLines, fieldLine, List.cons_append,
    List.nil_append, List.intercalate_cons_cons, List.intercalate_singleton, List.append_assoc,
    List.append_nil]

/-- The fields of a printed report are those of the report. -/
theorem fields_printed (report : RunReport) (programLength : Nat) :
    Text.fields (report.printed programLength) = report.fields programLength :=
  fields_of_lines (report.enclosed_fields programLength) (report.toList_printed programLength)

end RunReport

end RiverPuzzle
