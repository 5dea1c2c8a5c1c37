import Mathlib.Algebra.GroupWithZero.Nat
import RiverPuzzle.Code.Mark

/-!
# Lines and columns

The lines of a text are what stands between its line feeds.  The line of a place counts the
feeds in front of it and the column counts from the last of them, without a look at the rest of
the text; both agree with the cut of the whole text into lines all the same.  The main statement:
line and column give back the offset of every place, also of one past the end, so no two places
of a text share them.
-/

namespace RiverPuzzle

namespace Text

/-- The room that lines take up, each with the line feed behind it. -/
def extent (lines : List (List Char)) : Nat :=
  (lines.map fun line => line.length + 1).sum

@[simp] theorem extent_nil : extent [] = 0 := rfl

@[simp] theorem extent_cons (line : List Char) (lines : List (List Char)) :
    extent (line :: lines) = line.length + 1 + extent lines := by
  simp [extent]

/-- What stands in front of the first line feed begins the first line. -/
theorem exists_splitOn_append {front : List Char} (hfront : '\n' ∉ front) (back : List Char) :
    ∃ line below, (front ++ back).splitOn '\n' = (front ++ line) :: below := by
  induction front with
  | nil => exact List.exists_cons_of_ne_nil (List.splitOn_ne_nil '\n' back)
  | cons char front ih =>
      rw [List.mem_cons, not_or] at hfront
      obtain ⟨line, below, hsplit⟩ := ih hfront.2
      have hchar : (char == '\n') = false := beq_false_of_ne (Ne.symm hfront.1)
      refine ⟨line, below, ?_⟩
      rw [List.cons_append, List.splitOn_cons_eq_if_modifyHead, hchar, hsplit]
      rfl

/-- The lines of a text make up the text, which has no feed behind its last line. -/
theorem extent_splitOn (text : List Char) : extent (text.splitOn '\n') = text.length + 1 := by
  induction text with
  | nil => rfl
  | cons char text ih =>
      obtain ⟨line, below, hsplit⟩ :=
        List.exists_cons_of_ne_nil (List.splitOn_ne_nil '\n' text)
      rw [hsplit, extent_cons] at ih
      rw [List.splitOn_cons_eq_if_modifyHead, hsplit]
      split
      · simp only [extent_cons, List.length_nil, List.length_cons]
        omega
      · simp only [List.modifyHead_cons, extent_cons, List.length_cons]
        omega

theorem length_splitOn (text : List Char) :
    (text.splitOn '\n').length = text.count '\n' + 1 := by
  induction text with
  | nil => rfl
  | cons char text ih =>
      rw [List.splitOn_cons_eq_if_modifyHead, List.count_cons]
      split
      · rw [List.length_cons, ih]
      · rw [List.length_modifyHead, ih]

/-- A line is all of the text up to the first line feed behind it. -/
theorem takeWhile_line_append {line : List Char} (hline : '\n' ∉ line) (rest : List Char) :
    (line ++ rest).takeWhile (· != '\n') = line ++ rest.takeWhile (· != '\n') := by
  apply List.takeWhile_append_of_pos
  intro char hchar
  exact bne_iff_ne.2 fun h => hline (h ▸ hchar)

/-- The last line of a text, with the lines above it: whatever follows the text, those lines
stay, and only the last one may go on. -/
theorem exists_last_line (text : List Char) :
    ∃ above last, '\n' ∉ last ∧ text.count '\n' = above.length ∧
      text.length = extent above + last.length ∧
      (text.reverse.takeWhile (· != '\n')).length = last.length ∧
      ∀ back, (text ++ back).splitOn '\n' = above ++ (last ++ back).splitOn '\n' := by
  by_cases hfeed : '\n' ∈ text
  · obtain ⟨last, front, htext, hlast⟩ := List.eq_append_cons_of_mem (List.mem_reverse.2 hfeed)
    refine ⟨front.reverse.splitOn '\n', last.reverse, by rwa [List.mem_reverse], ?_, ?_, ?_, ?_⟩
    · rw [length_splitOn, ← List.count_reverse, htext]
      simp [List.count_eq_zero.2 hlast]
    · rw [extent_splitOn, ← List.length_reverse, htext]
      simp only [List.length_append, List.length_cons, List.length_reverse]
      omega
    · rw [htext, takeWhile_line_append hlast]
      simp
    · intro back
      rw [← List.reverse_reverse text, htext]
      simp [List.splitOn_append_cons_self]
  · refine ⟨[], text, hfeed, List.count_eq_zero.2 hfeed, (Nat.zero_add _).symm, ?_, fun _ => rfl⟩
    have htake := takeWhile_line_append (mt List.mem_reverse.1 hfeed) []
    rw [List.append_nil] at htake
    rw [htake]
    simp

end Text

namespace Mark

/-- The line of a place, with the lines above it and below it. -/
theorem exists_line (mark : Mark) :
    ∃ above line below, mark.source.splitOn '\n' = above ++ line :: below ∧
      mark.line = above.length + 1 ∧ mark.column = mark.position - Text.extent above + 1 ∧
      Text.extent above ≤ mark.position ∧
      (mark.position ≤ mark.source.length → mark.position ≤ Text.extent above + line.length) := by
  obtain ⟨above, last, hlast, hcount, hlength, htake, hsplit⟩ := Text.exists_last_line mark.before
  obtain ⟨more, below, hmore⟩ := Text.exists_splitOn_append hlast mark.remainder
  have hsource : mark.before ++ mark.remainder = mark.source := List.take_append_drop _ _
  have hbefore : mark.before.length = min mark.position mark.source.length := List.length_take
  have hstart : mark.lineStart = Text.extent above := by
    rw [lineStart, htake, hlength, Nat.add_sub_cancel]
  refine ⟨above, last ++ more, below, ?_, ?_, ?_, ?_, ?_⟩
  · rw [← hsource, hsplit, hmore]
  · rw [line, hcount]
  · rw [column, hstart]
  · omega
  · intro hposition
    rw [List.length_append]
    omega

/-- The offset of a place is what its line and column say. -/
theorem extent_add_column (mark : Mark) :
    Text.extent ((mark.source.splitOn '\n').take (mark.line - 1)) + (mark.column - 1) =
      mark.position := by
  obtain ⟨above, line, below, hsplit, hline, hcolumn, hstart, -⟩ := mark.exists_line
  rw [hline, hcolumn, hsplit, Nat.add_sub_cancel, Nat.add_sub_cancel, List.take_left]
  exact Nat.add_sub_cancel' hstart

/-- Line and column name a place: they tell where it is in the lines of the text, and its offset
is what they say.  Up to the end of the text the column lies in its line, or right behind it, and
different offsets never have the same line and column. -/
theorem line_column_exact (source : List Char) :
    (∀ position : Nat,
      1 ≤ (Mark.mk source position).line ∧
      (Mark.mk source position).line ≤ (source.splitOn '\n').length ∧
      1 ≤ (Mark.mk source position).column ∧
      Text.extent ((source.splitOn '\n').take ((Mark.mk source position).line - 1)) +
        ((Mark.mk source position).column - 1) = position ∧
      (position ≤ source.length →
        ∃ line, (source.splitOn '\n')[(Mark.mk source position).line - 1]? = some line ∧
          (Mark.mk source position).column ≤ line.length + 1)) ∧
    ∀ one other : Nat, (Mark.mk source one).line = (Mark.mk source other).line →
      (Mark.mk source one).column = (Mark.mk source other).column → one = other := by
  constructor
  · intro position
    obtain ⟨above, line, below, hsplit, hline, hcolumn, hstart, hend⟩ :=
      (Mark.mk source position).exists_line
    have hoffset := (Mark.mk source position).extent_add_column
    have hat : (above ++ line :: below)[above.length]? = some line := by simp
    refine ⟨by omega, ?_, by omega, hoffset, ?_⟩
    · rw [hline, hsplit, List.length_append, List.length_cons]
      omega
    · intro hposition
      refine ⟨line, ?_, ?_⟩
      · rw [hline, hsplit, Nat.add_sub_cancel, hat]
      · have := hend hposition
        rw [hcolumn]
        omega
  · intro one other hline hcolumn
    calc one = Text.extent ((source.splitOn '\n').take ((Mark.mk source one).line - 1)) +
          ((Mark.mk source one).column - 1) := (Mark.mk source one).extent_add_column.symm
      _ = Text.extent ((source.splitOn '\n').take ((Mark.mk source other).line - 1)) +
          ((Mark.mk source other).column - 1) := by rw [hline, hcolumn]
      _ = other := (Mark.mk source other).extent_add_column

end Mark

end RiverPuzzle
