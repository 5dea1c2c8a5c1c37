import RiverPuzzle.Proofs.Placement
import RiverPuzzle.Proofs.Stopping

/-!
# How far the reader sees

None of the words for which the reader can wait has more than six characters.  So what is
further behind the place of a complaint than that makes no difference to it.  The main
statement compares two texts that are the same up to there.
-/

namespace RiverPuzzle

namespace Reader

/-- The length of the longest word. -/
def sight : Nat := 6

variable {limit depth : Nat} {front rest other : List Char} {complaint : Complaint}
  {words : Set (List Char)}

theorem Awaits.length_le_sight (h : Awaits limit depth front complaint words) :
    ∀ word ∈ words, word.length ≤ sight := by
  apply h.forall_words fun word => word.length ≤ sight
  · decide
  · decide
  · intro char _
    simp [sight]
  · rintro (_ | _ | _ | _) <;> decide
  · rintro (_ | _ | _) <;> decide

theorem length_le_sight_of_headWords :
    ∀ word ∈ headWords ∪ blankWords, word.length ≤ sight := by
  rintro word ((rfl | rfl | rfl) | ⟨char, -, rfl⟩) <;> simp [sight, moveWord, loopWord, ifWord]

/-- Texts that are the same as far as one can see begin with the same words. -/
theorem prefix_iff_of_take {word : List Char} (hlength : word.length ≤ sight)
    (hsame : other.take sight = rest.take sight) : word <+: other ↔ word <+: rest := by
  have htake (text : List Char) : word <+: text ↔ word <+: text.take sight := by
    rw [List.prefix_take_iff, and_iff_left hlength]
  rw [htake other, hsame, ← htake rest]

theorem Lacks.of_take (h : Lacks rest words) (hlength : ∀ word ∈ words, word.length ≤ sight)
    (hsame : other.take sight = rest.take sight) : Lacks other words :=
  fun word hword hbegins =>
    h word hword ((prefix_iff_of_take (hlength word hword) hsame).1 hbegins)

theorem eq_nil_iff_of_take (hsame : other.take sight = rest.take sight) :
    other = [] ↔ rest = [] := by
  have htake (text : List Char) : text = [] ↔ text.take sight = [] := by
    simp [List.take_eq_nil_iff, sight]
  rw [htake other, hsame, ← htake rest]

/-- The reader stops at the same place in a text that looks the same from there. -/
theorem Halts.of_take (h : Halts limit depth front complaint rest)
    (hsame : other.take sight = rest.take sight) : Halts limit depth front complaint other := by
  have hbrace : ['}'] <+: other ↔ ['}'] <+: rest := prefix_iff_of_take (by decide) hsame
  cases h with
  | within hawaits hlacks =>
      exact .within hawaits (hlacks.of_take hawaits.length_le_sight hsame)
  | statement hlacks hnone hne =>
      exact .statement (hlacks.of_take length_le_sight_of_headWords hsame) (hbrace.not.2 hnone)
        ((eq_nil_iff_of_take hsame).not.2 hne)
  | unterminated hdepth =>
      rw [(eq_nil_iff_of_take hsame).2 rfl]
      exact .unterminated hdepth
  | unmatched hdepth hclosing => exact .unmatched hdepth (hbrace.2 hclosing)

end Reader

/-- Texts that are the same up to a place are the same before it, and look the same from it. -/
theorem exists_append_of_take {read rest text : List Char} {count : Nat}
    (hsame : text.take (read.length + count) = (read ++ rest).take (read.length + count)) :
    ∃ other, text = read ++ other ∧ other.take count = rest.take count := by
  rw [List.take_length_add_append] at hsame
  refine ⟨text.drop read.length, ?_, ?_⟩
  · have hread : text.take read.length = read := by
      calc text.take read.length
          = (text.take (read.length + count)).take read.length := by
            rw [List.take_take, Nat.min_eq_left (Nat.le_add_right _ _)]
        _ = read := by rw [hsame, List.take_left]
    calc text = text.take read.length ++ text.drop read.length := (List.take_append_drop ..).symm
      _ = read ++ text.drop read.length := by rw [hread]
  · rw [List.take_drop, hsame, List.drop_left]

/-- The line and the column of a place hang on the text before it alone. -/
theorem Mark.line_column_of_before {one other : Mark} (hbefore : one.before = other.before)
    (hposition : one.position = other.position) :
    one.line = other.line ∧ one.column = other.column := by
  simp only [line, column, lineStart, hbefore, hposition, and_self]

/-- A rejected text is rejected for the same reason, at the same position, line and column,
whatever is put in place of what is more than six characters behind that position. -/
theorem rejected_whatever_follows {source text : List Char} {rejection : Rejection}
    (hrejected : parse source = .error rejection)
    (hsame : text.take (rejection.mark.position + 6) =
      source.take (rejection.mark.position + 6)) :
    ∃ other : Rejection, parse text = .error other ∧ other.complaint = rejection.complaint ∧
      other.mark.source = text ∧ other.mark.position = rejection.mark.position ∧
      other.mark.line = rejection.mark.line ∧ other.mark.column = rejection.mark.column := by
  obtain ⟨front, opened, made, back, rest, rfl, hleads, hhalts, hmark⟩ :=
    parse_eq_error_iff_halts.1 hrejected
  rw [hmark, ← List.append_assoc] at hsame
  obtain ⟨other, rfl, hother⟩ := exists_append_of_take hsame
  have hbefore : (⟨front ++ back ++ other, (front ++ back).length⟩ : Mark).before =
      rejection.mark.before := by
    rw [hmark, ← List.append_assoc, Mark.before, Mark.before, List.take_left, List.take_left]
  have hposition : (front ++ back).length = rejection.mark.position := by rw [hmark]
  have hplace := Mark.line_column_of_before hbefore hposition
  refine ⟨⟨rejection.complaint, ⟨front ++ back ++ other, (front ++ back).length⟩⟩, ?_, rfl, rfl,
    hposition, hplace.1, hplace.2⟩
  rw [List.append_assoc]
  exact parse_of_halts hleads (hhalts.of_take hother)

/-- A tile without its last letter is missed in the second line, whatever follows the blank in
its place. -/
theorem rejected_whatever_follows_finis :
    parse "loop\x7b\nif up finis \x7b\x7d\x7d".toList =
        .error ⟨.tile, ⟨"loop\x7b\nif up finis \x7b\x7d\x7d".toList, 12⟩⟩ ∧
      "loop\x7b\nif up finis h\x7b".toList.take 18 =
        "loop\x7b\nif up finis \x7b\x7d\x7d".toList.take 18 ∧
      ∃ other : Rejection, parse "loop\x7b\nif up finis h\x7b".toList = .error other ∧
        other.complaint = .tile ∧ other.mark.position = 12 ∧ other.mark.line = 2 ∧
        other.mark.column = 7 := by
  have hrejected : Program.ofText "loop\x7b\nif up finis \x7b\x7d\x7d".toList =
      .error ⟨.tile, ⟨"loop\x7b\nif up finis \x7b\x7d\x7d".toList, 12⟩⟩ := by decide +kernel
  have hparse := Program.ofText_eq_error_iff.1 hrejected
  have hsame : "loop\x7b\nif up finis h\x7b".toList.take 18 =
      "loop\x7b\nif up finis \x7b\x7d\x7d".toList.take 18 := by decide
  obtain ⟨other, hother, hcomplaint, -, hposition, hline, hcolumn⟩ :=
    rejected_whatever_follows hparse hsame
  refine ⟨hparse, hsame, other, hother, hcomplaint, hposition, ?_, ?_⟩
  · rw [hline]
    decide
  · rw [hcolumn]
    decide

end RiverPuzzle
