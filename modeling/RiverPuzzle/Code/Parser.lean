import RiverPuzzle.Code.Mark
import RiverPuzzle.Code.Statement
import RiverPuzzle.Result
import RiverPuzzle.Text.Blank
import RiverPuzzle.Text.Word

/-!
# Reading programs

    program    = blank* (statement blank*)*
    statement  = "move " direction blank* ";"
               | "loop" blank* block
               | "if " direction blank+ tile blank* block
    block      = "{" blank* (statement blank*)* "}"

The words `move` and `if` are read together with exactly one plain space.  The
reader keeps the blocks that are still open on a stack and takes one step for
each statement head and each closing brace, so its work is bounded by the length
of the text.
-/

namespace RiverPuzzle

/-- The deepest nesting of blocks. -/
def maxNesting : Nat := 64

/-- What the reader misses, or finds too much of. -/
inductive Complaint
  | direction
  | tile
  | blankBeforeTile
  | sign (char : Char)
  | statement
  | tooDeep
  | unterminated
  | unmatched
deriving DecidableEq, Repr

def Complaint.text : Complaint → String
  | .direction => "expected direction"
  | .tile => "expected tile"
  | .blankBeforeTile => "expected whitespace before tile"
  | .sign char => "expected " ++ Text.quoted [char]
  | .statement => "expected statement"
  | .tooDeep => "blocks nested deeper than " ++ toString maxNesting
  | .unterminated => "unterminated block"
  | .unmatched => "unmatched '\x7d'"

/-- Why a text is no program, and where that shows. -/
structure Rejection where
  complaint : Complaint
  mark : Mark
deriving DecidableEq, Repr

def Rejection.message (rejection : Rejection) : String :=
  rejection.mark.describe rejection.complaint.text

/-- The complaint that stops the reader, with the text not yet read. -/
structure Stop where
  complaint : Complaint
  rest : List Char
deriving DecidableEq, Repr

/-- The first part of a statement, which needs no look into a block. -/
inductive Head
  | move (direction : Direction)
  | block (header : Header)
deriving DecidableEq, Repr

/-- A block that is still open: its header, and the statements that come before
it in the block around it, newest first. -/
structure OpenBlock where
  header : Header
  before : List Stmt

namespace Reader

def moveWord : List Char := ['m', 'o', 'v', 'e', ' ']

def loopWord : List Char := ['l', 'o', 'o', 'p']

def ifWord : List Char := ['i', 'f', ' ']

/-- The first choice whose word begins the text, and the text after the word. -/
def readWord? {α : Type} (choices : List α) (word : α → List Char) (text : List Char) :
    Option (α × List Char) :=
  choices.findSome? fun choice =>
    (Text.afterWord? (word choice) text).map fun rest => (choice, rest)

def readDirection (text : List Char) : Except Stop (Direction × List Char) :=
  match readWord? Direction.all Direction.word text with
  | some found => .ok found
  | none => .error ⟨.direction, text⟩

def readTile (text : List Char) : Except Stop (Tile × List Char) :=
  match readWord? Tile.all Tile.word text with
  | some found => .ok found
  | none => .error ⟨.tile, text⟩

/-- The text after a sign that has to be there. -/
def readSign (sign : Char) : List Char → Except Stop (List Char)
  | [] => .error ⟨.sign sign, []⟩
  | char :: rest => if char = sign then .ok rest else .error ⟨.sign sign, char :: rest⟩

/-- The text after the blanks that have to stand before a tile. -/
def readGap : List Char → Except Stop (List Char)
  | [] => .error ⟨.blankBeforeTile, []⟩
  | char :: rest =>
      if Text.isBlank char then .ok (Text.skipBlanks rest)
      else .error ⟨.blankBeforeTile, char :: rest⟩

/-- The brace that opens a block, inside `depth` blocks that are open, where at
most `limit` may be. -/
def readOpening (limit depth : Nat) (header : Header) (text : List Char) :
    Except Stop (Head × List Char) :=
  if limit ≤ depth then .error ⟨.tooDeep, text⟩
  else (readSign '{' text).map fun rest => (.block header, rest)

/-- What follows the word of a move. -/
def readMove (text : List Char) : Except Stop (Head × List Char) := do
  let (direction, rest) ← readDirection text
  let rest ← readSign ';' (Text.skipBlanks rest)
  return (.move direction, rest)

/-- What follows the word of a guarded block. -/
def readCond (limit depth : Nat) (text : List Char) : Except Stop (Head × List Char) := do
  let (direction, rest) ← readDirection text
  let rest ← readGap rest
  let (tile, rest) ← readTile rest
  readOpening limit depth (.cond ⟨direction, tile⟩) (Text.skipBlanks rest)

/-- The head of a statement, inside `depth` blocks that are open. -/
def readHead (limit depth : Nat) (text : List Char) : Except Stop (Head × List Char) :=
  match Text.afterWord? moveWord text with
  | some rest => readMove rest
  | none =>
      match Text.afterWord? loopWord text with
      | some rest => readOpening limit depth .loop (Text.skipBlanks rest)
      | none =>
          match Text.afterWord? ifWord text with
          | some rest => readCond limit depth rest
          | none => .error ⟨.statement, text⟩

theorem readWord?_length {α : Type} {choices : List α} {word : α → List Char}
    {text rest : List Char} {choice : α}
    (h : readWord? choices word text = some (choice, rest)) : rest.length ≤ text.length := by
  obtain ⟨found, -, hfound⟩ := List.exists_of_findSome?_eq_some h
  obtain ⟨rest', hrest, heq⟩ := Option.map_eq_some_iff.1 hfound
  cases heq
  have := Text.length_of_afterWord? hrest
  omega

theorem readDirection_length {text rest : List Char} {direction : Direction}
    (h : readDirection text = .ok (direction, rest)) : rest.length ≤ text.length := by
  unfold readDirection at h
  split at h
  · rename_i hfound
    cases h
    exact readWord?_length hfound
  · cases h

theorem readTile_length {text rest : List Char} {tile : Tile}
    (h : readTile text = .ok (tile, rest)) : rest.length ≤ text.length := by
  unfold readTile at h
  split at h
  · rename_i hfound
    cases h
    exact readWord?_length hfound
  · cases h

theorem readSign_length {sign : Char} {text rest : List Char}
    (h : readSign sign text = .ok rest) : text.length = rest.length + 1 := by
  cases text with
  | nil => cases h
  | cons char text =>
      simp only [readSign] at h
      split at h
      · cases h
        rfl
      · cases h

theorem readGap_length {text rest : List Char}
    (h : readGap text = .ok rest) : rest.length ≤ text.length := by
  cases text with
  | nil => cases h
  | cons char text =>
      simp only [readGap] at h
      split at h
      · cases h
        have := Text.length_skipBlanks_le text
        simp only [List.length_cons]
        omega
      · cases h

theorem readOpening_length {limit depth : Nat} {header : Header} {text rest : List Char}
    {head : Head} (h : readOpening limit depth header text = .ok (head, rest)) :
    rest.length < text.length := by
  unfold readOpening at h
  split at h
  · cases h
  · obtain ⟨after, hsign, heq⟩ := map_eq_ok_iff.1 h
    cases heq
    have := readSign_length hsign
    omega

theorem readMove_length {text rest : List Char} {head : Head}
    (h : readMove text = .ok (head, rest)) : rest.length < text.length := by
  obtain ⟨⟨direction, after⟩, hdirection, h⟩ := bind_eq_ok_iff.1 h
  obtain ⟨last, hsign, heq⟩ := bind_eq_ok_iff.1 h
  cases heq
  have := readDirection_length hdirection
  have := readSign_length hsign
  have := Text.length_skipBlanks_le after
  omega

theorem readCond_length {limit depth : Nat} {text rest : List Char} {head : Head}
    (h : readCond limit depth text = .ok (head, rest)) : rest.length < text.length := by
  obtain ⟨⟨direction, after⟩, hdirection, h⟩ := bind_eq_ok_iff.1 h
  obtain ⟨next, hgap, h⟩ := bind_eq_ok_iff.1 h
  obtain ⟨⟨tile, last⟩, htile, h⟩ := bind_eq_ok_iff.1 h
  have := readDirection_length hdirection
  have := readGap_length hgap
  have := readTile_length htile
  have := readOpening_length h
  have := Text.length_skipBlanks_le last
  omega

/-- A head is never empty. -/
theorem readHead_length {limit depth : Nat} {text rest : List Char} {head : Head}
    (h : readHead limit depth text = .ok (head, rest)) : rest.length < text.length := by
  unfold readHead at h
  split at h
  · rename_i hword
    have := Text.length_of_afterWord? hword
    have := readMove_length h
    omega
  · split at h
    · rename_i after hword
      have := Text.length_of_afterWord? hword
      have := readOpening_length h
      have := Text.length_skipBlanks_le after
      omega
    · split at h
      · rename_i hword
        have := Text.length_of_afterWord? hword
        have := readCond_length h
        omega
      · cases h

/-- Read on, with the blocks that are open, the innermost first, and the
statements of the innermost one so far, newest first.  At most `limit` blocks may
be open at once. -/
def readFrom (limit : Nat) (blocks : List OpenBlock) (done : List Stmt) (text : List Char) :
    Except Stop (List Stmt) :=
  match _htext : Text.skipBlanks text with
  | [] =>
      match blocks with
      | [] => .ok done.reverse
      | _ :: _ => .error ⟨.unterminated, []⟩
  | '}' :: rest =>
      match blocks with
      | [] => .error ⟨.unmatched, '}' :: rest⟩
      | block :: blocks =>
          readFrom limit blocks (block.header.close done.reverse :: block.before) rest
  | char :: rest =>
      match _hhead : readHead limit blocks.length (char :: rest) with
      | .error stop => .error stop
      | .ok (.move direction, rest) => readFrom limit blocks (.move direction :: done) rest
      | .ok (.block header, rest) => readFrom limit (⟨header, done⟩ :: blocks) [] rest
termination_by text.length
decreasing_by
  all_goals
    have hle := Text.length_skipBlanks_le text
    rw [_htext] at hle
  · simp only [List.length_cons] at hle
    omega
  · have := readHead_length _hhead
    omega
  · have := readHead_length _hhead
    omega

end Reader

/-- The statements of a program text. -/
def parse (source : List Char) : Except Rejection (List Stmt) :=
  match Reader.readFrom maxNesting [] [] source with
  | .ok statements => .ok statements
  | .error stop => .error ⟨stop.complaint, ⟨source, source.length - stop.rest.length⟩⟩

end RiverPuzzle
