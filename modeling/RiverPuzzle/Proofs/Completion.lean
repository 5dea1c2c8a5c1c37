import RiverPuzzle.Proofs.Placement
import RiverPuzzle.Proofs.Stopping

/-!
# What can still become a program

Wherever the reader stops, something could follow what it has read and make a program of it:
the rest of the statement that it waits in, and a closing brace for every block that is open.
Where it stops only because no more blocks may be opened, that program has one block too
many, so the bound on the nesting is one more for the reader that takes it.  The main
statement says so for every text that is rejected.
-/

namespace RiverPuzzle

namespace Reader

variable {limit depth : Nat} {text front rest : List Char} {complaint : Complaint}
  {words : Set (List Char)} {blocks opened : List OpenBlock} {done made : List Stmt}

/-- The reader lets more blocks be open under a larger bound. -/
theorem Leads.mono {larger : Nat} (hle : limit ≤ larger)
    (h : Leads limit blocks done front opened made) :
    Leads larger blocks done front opened made := by
  induction h with
  | refl => exact .refl
  | gap hgap h ih => exact ih.gap hgap
  | move direction hgap h ih => exact ih.move direction hgap
  | opening hopens hdepth h ih => exact ih.opening hopens (Nat.lt_of_lt_of_le hdepth hle)
  | closing block h ih => exact ih.closing block

/-- No more blocks are ever open than may be. -/
theorem Leads.length_le (h : Leads limit blocks done front opened made)
    (hle : blocks.length ≤ limit) : opened.length ≤ limit := by
  induction h with
  | refl => exact hle
  | gap hgap h ih => exact ih hle
  | move direction hgap h ih => exact ih hle
  | opening hopens hdepth h ih => exact ih hdepth
  | closing block h ih => exact ih (Nat.le_of_succ_le hle)

/-- As many closing braces as blocks are open make a tree of all that has been read. -/
theorem exists_readFrom_braces (limit : Nat) (blocks : List OpenBlock) (done : List Stmt) :
    ∃ tree, readFrom limit blocks done (List.replicate blocks.length '}') = .ok tree := by
  induction blocks generalizing done with
  | nil => exact ⟨done.reverse, readFrom_nil⟩
  | cons block blocks ih =>
      rw [List.length_cons, List.replicate_succ, readFrom_close]
      exact ih _

/-- A part of a statement becomes a whole head, if one more block may be open. -/
theorem Awaits.exists_head (h : Awaits limit depth front complaint words)
    (hdepth : depth ≤ limit) :
    ∃ more head, ∀ rest,
      readHead (limit + 1) depth (front ++ (more ++ rest)) = .ok (head, rest) := by
  have hroom : depth < limit + 1 := Nat.lt_succ_of_le hdepth
  have hopening {header : Header} {before : List Char} (hopens : Opens header before)
      (rest : List Char) :
      readHead (limit + 1) depth (before ++ '{' :: rest) = .ok (.block header, rest) :=
    readHead_eq_block_iff.2 ⟨hroom, before, hopens, rfl⟩
  have hspace : Blanks [' '] := blanks_cons rfl blanks_nil
  cases h with
  | way hword =>
      obtain rfl | rfl := hword
      · refine ⟨Direction.up.word ++ [';'], .move .up, fun rest => ?_⟩
        exact readHead_eq_move_iff.2 ⟨[], blanks_nil, rfl⟩
      · refine ⟨Direction.up.word ++ [' '] ++ Tile.rock.word ++ ['{'],
          .block (.cond ⟨.up, .rock⟩), fun rest => ?_⟩
        exact hopening (.cond .up .rock hspace (List.cons_ne_nil ' ' []) blanks_nil) rest
  | @semicolon gap direction hgap =>
      refine ⟨[';'], .move direction, fun rest => readHead_eq_move_iff.2 ⟨gap, hgap, ?_⟩⟩
      simp only [List.append_assoc, List.singleton_append]
  | gap direction =>
      refine ⟨[' '] ++ Tile.rock.word ++ ['{'], .block (.cond ⟨direction, .rock⟩), fun rest => ?_⟩
      have hhead := hopening
        (.cond direction .rock hspace (List.cons_ne_nil ' ' []) blanks_nil) rest
      simpa only [List.append_assoc, List.append_nil, List.singleton_append] using hhead
  | @tile gap direction hgap hne =>
      refine ⟨Tile.rock.word ++ ['{'], .block (.cond ⟨direction, .rock⟩), fun rest => ?_⟩
      have hhead := hopening (.cond direction .rock hgap hne blanks_nil) rest
      simpa only [List.append_assoc, List.append_nil, List.singleton_append] using hhead
  | brace hopens _ => exact ⟨['{'], _, hopening hopens⟩
  | room hopens _ => exact ⟨['{'], _, hopening hopens⟩

/-- Where the reader stops it has read what could go on to the end of a program. -/
theorem Halts.exists_tree (h : Halts limit blocks.length front complaint rest)
    (hdepth : blocks.length ≤ limit) (done : List Stmt) :
    ∃ more tree, readFrom (limit + 1) blocks done (front ++ more) = .ok tree := by
  have hbraces (blocks : List OpenBlock) (done : List Stmt) :=
    exists_readFrom_braces (limit + 1) blocks done
  cases h with
  | within hawaits hlacks =>
      obtain ⟨more, head, hhead⟩ := hawaits.exists_head hdepth
      cases head with
      | move direction =>
          obtain ⟨tree, htree⟩ := hbraces blocks (.move direction :: done)
          exact ⟨_, tree, (readFrom_head (hhead _)).trans htree⟩
      | block header =>
          obtain ⟨tree, htree⟩ := hbraces (⟨header, done⟩ :: blocks) []
          exact ⟨_, tree, (readFrom_head (hhead _)).trans htree⟩
  | statement _ _ _ => exact ⟨_, hbraces blocks done⟩
  | unterminated _ => exact ⟨_, hbraces blocks done⟩
  | unmatched _ _ => exact ⟨_, hbraces blocks done⟩

end Reader

/-- Wherever a text is rejected, that place is not behind its end, and the text before the place
is the beginning of a program, which may have its blocks nested deeper than is allowed. -/
theorem rejected_behind_beginning {source : List Char} {rejection : Rejection}
    (hrejected : parse source = .error rejection) :
    rejection.mark.source = source ∧ rejection.mark.position ≤ source.length ∧
      ∃ (more : List Char) (tree : List Stmt),
        Derives (.program tree) (source.take rejection.mark.position ++ more) := by
  obtain ⟨front, opened, made, back, rest, rfl, hleads, hhalts, hmark⟩ :=
    parse_eq_error_iff_halts.1 hrejected
  have hdepth := hleads.length_le (Nat.zero_le maxNesting)
  obtain ⟨more, tree, hread⟩ := hhalts.exists_tree hdepth made
  rw [← (hleads.mono (Nat.le_succ maxNesting)).readFrom_eq] at hread
  rw [hmark, ← List.append_assoc]
  refine ⟨rfl, ?_, more, tree, ?_⟩
  · exact (List.prefix_append (front ++ back) rest).length_le
  · rw [List.take_left, List.append_assoc]
    exact (Reader.readFrom_eq_ok_iff.1 hread).1

/-- Sixty-four loops inside each other, and the word of one more: what follows it may be the rest
of a program, but not of one that is accepted. -/
theorem rejected_behind_beginning_whorl :
    ∃ source, source = (List.replicate 64 "loop\x7b".toList).flatten ++ "loop \x7b".toList ∧
      parse source = .error ⟨.tooDeep, ⟨source, 325⟩⟩ ∧
      ∃ (more : List Char) (tree : List Stmt),
        Derives (.program tree) (source.take 325 ++ more) := by
  have hrejected : Program.ofText
      ((List.replicate 64 "loop\x7b".toList).flatten ++ "loop \x7b".toList) =
      .error ⟨.tooDeep,
        ⟨(List.replicate 64 "loop\x7b".toList).flatten ++ "loop \x7b".toList, 325⟩⟩ := by
    decide +kernel
  have hparse := Program.ofText_eq_error_iff.1 hrejected
  exact ⟨_, rfl, hparse, (rejected_behind_beginning hparse).2.2⟩

end RiverPuzzle
