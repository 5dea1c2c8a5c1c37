import RiverPuzzle.Code.Statement
import RiverPuzzle.Text.Blank

/-!
# The grammar of programs

    program    = blank* (statement blank*)*
    statement  = "move " direction blank* ";"
               | "loop" blank* block
               | "if " direction blank+ tile blank* block
    block      = "{" blank* (statement blank*)* "}"

The grammar says what each text of a phrase stands for, and knows no bound on the
nesting of blocks; that is a number of the tree.
-/

namespace RiverPuzzle

/-- A phrase of the grammar, with what it stands for. -/
inductive Phrase
  | program (tree : List Stmt)
  | sequence (stmts : List Stmt)
  | statement (stmt : Stmt)
  | block (body : List Stmt)

/-- All characters of the text are blank. -/
def Blanks (text : List Char) : Prop :=
  ∀ char ∈ text, Text.isBlank char = true

/-- The text is one of the phrase. -/
inductive Derives : Phrase → List Char → Prop
  | program {gap text : List Char} {tree : List Stmt} (hgap : Blanks gap)
      (htext : Derives (.sequence tree) text) :
      Derives (.program tree) (gap ++ text)
  | nil : Derives (.sequence []) []
  | cons {first gap text : List Char} {stmt : Stmt} {rest : List Stmt}
      (hfirst : Derives (.statement stmt) first) (hgap : Blanks gap)
      (htext : Derives (.sequence rest) text) :
      Derives (.sequence (stmt :: rest)) (first ++ (gap ++ text))
  | move {gap : List Char} (direction : Direction) (hgap : Blanks gap) :
      Derives (.statement (.move direction))
        (['m', 'o', 'v', 'e', ' '] ++ (direction.word ++ (gap ++ [';'])))
  | loop {gap text : List Char} {body : List Stmt} (hgap : Blanks gap)
      (htext : Derives (.block body) text) :
      Derives (.statement (.loop body)) (['l', 'o', 'o', 'p'] ++ (gap ++ text))
  | cond {gap after text : List Char} {body : List Stmt} (direction : Direction) (tile : Tile)
      (hgap : Blanks gap) (hne : gap ≠ []) (hafter : Blanks after)
      (htext : Derives (.block body) text) :
      Derives (.statement (.cond ⟨direction, tile⟩ body))
        (['i', 'f', ' '] ++ (direction.word ++ (gap ++ (tile.word ++ (after ++ text)))))
  | block {gap text : List Char} {body : List Stmt} (hgap : Blanks gap)
      (htext : Derives (.sequence body) text) :
      Derives (.block body) ('{' :: (gap ++ (text ++ ['}'])))

mutual

/-- How deep the blocks of a statement are nested. -/
def Stmt.nesting : Stmt → Nat
  | .move _ => 0
  | .loop body => Stmt.nestingAll body + 1
  | .cond _ body => Stmt.nestingAll body + 1

/-- How deep the blocks of a list of statements are nested. -/
def Stmt.nestingAll : List Stmt → Nat
  | [] => 0
  | stmt :: rest => max stmt.nesting (Stmt.nestingAll rest)

end

theorem Stmt.nesting_close (header : Header) (body : List Stmt) :
    (header.close body).nesting = Stmt.nestingAll body + 1 := by
  cases header <;> simp [Header.close, Stmt.nesting]

theorem blanks_nil : Blanks [] := by
  intro char hchar
  simp at hchar

theorem blanks_cons {char : Char} {text : List Char} (hchar : Text.isBlank char = true)
    (htext : Blanks text) : Blanks (char :: text) := by
  intro other hother
  rcases List.mem_cons.1 hother with rfl | hother
  · exact hchar
  · exact htext other hother

theorem blanks_append {front back : List Char} (hfront : Blanks front) (hback : Blanks back) :
    Blanks (front ++ back) := by
  intro char hchar
  rcases List.mem_append.1 hchar with h | h
  · exact hfront char h
  · exact hback char h

theorem Derives.nil_program : Derives (.program []) [] :=
  Derives.program blanks_nil Derives.nil

/-- Blanks before a program belong to it. -/
theorem Derives.gap_program {gap text : List Char} {tree : List Stmt} (hgap : Blanks gap)
    (htext : Derives (.program tree) text) : Derives (.program tree) (gap ++ text) := by
  obtain ⟨hmore, hseq⟩ := htext
  rw [← List.append_assoc]
  exact Derives.program (blanks_append hgap hmore) hseq

/-- A statement before a program belongs to it. -/
theorem Derives.cons_program {first text : List Char} {stmt : Stmt} {tree : List Stmt}
    (hfirst : Derives (.statement stmt) first) (htext : Derives (.program tree) text) :
    Derives (.program (stmt :: tree)) (first ++ text) := by
  obtain ⟨hmore, hseq⟩ := htext
  have hboth := Derives.program blanks_nil (Derives.cons hfirst hmore hseq)
  rwa [List.nil_append] at hboth

namespace Text

theorem blanks_takeWhile (text : List Char) : Blanks (text.takeWhile isBlank) := by
  intro char hchar
  exact List.all_eq_true.1 List.all_takeWhile char hchar

/-- Skipping takes blanks off a text. -/
theorem exists_blanks_skipBlanks (text : List Char) :
    ∃ gap, Blanks gap ∧ text = gap ++ skipBlanks text :=
  ⟨text.takeWhile isBlank, blanks_takeWhile text,
    (List.takeWhile_append_dropWhile).symm⟩

theorem skipBlanks_append {gap : List Char} (hgap : Blanks gap) (text : List Char) :
    skipBlanks (gap ++ text) = skipBlanks text :=
  List.dropWhile_append_of_pos hgap

theorem skipBlanks_cons {char : Char} (h : isBlank char = false) (text : List Char) :
    skipBlanks (char :: text) = char :: text := by
  simp [skipBlanks, h]

end Text

end RiverPuzzle
