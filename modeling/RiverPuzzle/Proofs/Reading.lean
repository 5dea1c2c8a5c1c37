import Mathlib.Data.List.DropRight
import RiverPuzzle.Code.Parser
import RiverPuzzle.Proofs.Grammar

/-!
# Reading is deriving

The reader accepts exactly the texts of the grammar whose blocks are not nested too
deep, and returns what they stand for.  One direction follows the reader, with what
the open blocks still ask of the text as its invariant; the other follows the
derivation, and says what each phrase does to the reader.  The reader under a
bound that is large enough shows that no text stands for two trees.
-/

namespace RiverPuzzle

/-- A text that stands in front of the brace of a block. -/
inductive Opens : Header → List Char → Prop
  | loop {gap : List Char} (hgap : Blanks gap) : Opens .loop (Reader.loopWord ++ gap)
  | cond {gap after : List Char} (direction : Direction) (tile : Tile)
      (hgap : Blanks gap) (hne : gap ≠ []) (hafter : Blanks after) :
      Opens (.cond ⟨direction, tile⟩)
        (Reader.ifWord ++ (direction.word ++ (gap ++ (tile.word ++ after))))

theorem Opens.derives {header : Header} {front text : List Char} {body : List Stmt}
    (hopens : Opens header front) (htext : Derives (.block body) text) :
    Derives (.statement (header.close body)) (front ++ text) := by
  cases hopens with
  | loop hgap =>
      rw [List.append_assoc]
      exact Derives.loop hgap htext
  | cond direction tile hgap hne hafter =>
      simp only [List.append_assoc]
      exact Derives.cond direction tile hgap hne hafter htext

namespace Reader

variable {limit depth : Nat} {text rest : List Char}

section Words

theorem afterWord?_append (word rest : List Char) :
    Text.afterWord? word (word ++ rest) = some rest :=
  Text.afterWord?_eq_some_iff.2 rfl

theorem readWord?_sound {α : Type} {choices : List α} {word : α → List Char} {choice : α}
    (h : readWord? choices word text = some (choice, rest)) : text = word choice ++ rest := by
  obtain ⟨found, -, hfound⟩ := List.exists_of_findSome?_eq_some h
  obtain ⟨after, hafter, heq⟩ := Option.map_eq_some_iff.1 hfound
  cases heq
  exact Text.afterWord?_eq_some_iff.1 hafter

/-- Where no word begins another one, at most one of them begins a text, whatever the
order in which they are tried. -/
theorem readWord?_eq_some_iff {α : Type} {choices : List α} {word : α → List Char}
    (hall : ∀ choice, choice ∈ choices)
    (hfree : ∀ one other, word one <+: word other → one = other) {choice : α} :
    readWord? choices word text = some (choice, rest) ↔ text = word choice ++ rest := by
  constructor
  · exact readWord?_sound
  · rintro rfl
    cases hread : readWord? choices word (word choice ++ rest) with
    | none =>
        have hnone := List.findSome?_eq_none_iff.1 hread choice (hall choice)
        simp [afterWord?_append] at hnone
    | some found =>
        obtain ⟨other, after⟩ := found
        have htext := readWord?_sound hread
        have hother : word other <+: word choice ++ rest := ⟨after, htext.symm⟩
        have hsame : other = choice := by
          rcases List.prefix_or_prefix_of_prefix hother (List.prefix_append _ rest) with h | h
          · exact hfree other choice h
          · exact (hfree choice other h).symm
        subst hsame
        rw [List.append_cancel_left htext]

theorem readDirection_eq_ok_iff {direction : Direction} :
    readDirection text = .ok (direction, rest) ↔ text = direction.word ++ rest := by
  have hall (choice : Direction) : choice ∈ Direction.all := by
    cases choice <;> decide
  have hfree (one other : Direction) (h : one.word <+: other.word) : one = other := by
    revert h
    cases one <;> cases other <;> decide
  rw [← readWord?_eq_some_iff hall hfree, readDirection]
  cases readWord? Direction.all Direction.word text <;> simp

theorem readTile_eq_ok_iff {tile : Tile} :
    readTile text = .ok (tile, rest) ↔ text = tile.word ++ rest := by
  have hall (choice : Tile) : choice ∈ Tile.all := by
    cases choice <;> decide
  have hfree (one other : Tile) (h : one.word <+: other.word) : one = other := by
    revert h
    cases one <;> cases other <;> decide
  rw [← readWord?_eq_some_iff hall hfree, readTile]
  cases readWord? Tile.all Tile.word text <;> simp

theorem readSign_eq_ok_iff {sign : Char} : readSign sign text = .ok rest ↔ text = sign :: rest := by
  cases text with
  | nil => simp [readSign]
  | cons char text =>
      simp only [readSign, List.cons.injEq]
      split <;> simp_all

/-- Nothing blank is in front of the text. -/
def Sharp (text : List Char) : Prop :=
  Text.skipBlanks text = text

theorem sharp_cons {char : Char} (hblank : Text.isBlank char = false) (text : List Char) :
    Sharp (char :: text) :=
  Text.skipBlanks_cons hblank text

theorem sharp_word (tile : Tile) (rest : List Char) : Sharp (tile.word ++ rest) := by
  cases tile <;> exact sharp_cons rfl _

/-- Skipping the blanks of a text leaves a rest exactly when the text is the rest behind
some blanks, and the rest does not begin with more of them. -/
theorem skipBlanks_eq_iff :
    Text.skipBlanks text = rest ↔ Sharp rest ∧ ∃ gap, Blanks gap ∧ text = gap ++ rest := by
  constructor
  · rintro rfl
    exact ⟨List.dropWhile_idempotent _ text, Text.exists_blanks_skipBlanks text⟩
  · rintro ⟨hrest, gap, hgap, rfl⟩
    rw [Text.skipBlanks_append hgap, hrest]

theorem readGap_eq_ok_iff :
    readGap text = .ok rest ↔
      Sharp rest ∧ ∃ gap, Blanks gap ∧ gap ≠ [] ∧ text = gap ++ rest := by
  cases text with
  | nil => simp [readGap]
  | cons char text =>
      simp only [readGap]
      constructor
      · intro h
        split at h
        · rename_i hblank
          obtain ⟨hrest, gap, hgap, rfl⟩ := skipBlanks_eq_iff.1 (Except.ok.inj h)
          exact ⟨hrest, char :: gap, blanks_cons hblank hgap, List.cons_ne_nil char gap, rfl⟩
        · cases h
      · rintro ⟨hrest, gap, hgap, hne, htext⟩
        obtain ⟨first, gap, rfl⟩ := List.exists_cons_of_ne_nil hne
        rw [List.cons_append] at htext
        obtain ⟨rfl, rfl⟩ := List.cons.inj htext
        have hblank := hgap char List.mem_cons_self
        have hmore : Blanks gap := fun other hother => hgap other (List.mem_cons_of_mem char hother)
        rw [if_pos hblank, skipBlanks_eq_iff.2 ⟨hrest, gap, hmore, rfl⟩]

theorem readOpening_eq_ok_iff {header : Header} {head : Head} :
    readOpening limit depth header text = .ok (head, rest) ↔
      depth < limit ∧ head = .block header ∧ text = '{' :: rest := by
  unfold readOpening
  split
  · rename_i hdeep
    simp only [reduceCtorEq, false_iff]
    omega
  · rename_i hdeep
    rw [map_eq_ok_iff]
    constructor
    · rintro ⟨after, hsign, heq⟩
      cases heq
      exact ⟨by omega, rfl, readSign_eq_ok_iff.1 hsign⟩
    · rintro ⟨-, rfl, rfl⟩
      exact ⟨rest, readSign_eq_ok_iff.2 rfl, rfl⟩

end Words

section Heads

theorem readMove_eq_ok_iff {head : Head} :
    readMove text = .ok (head, rest) ↔
      ∃ direction gap, Blanks gap ∧ head = .move direction ∧
        text = direction.word ++ (gap ++ ';' :: rest) := by
  constructor
  · intro h
    obtain ⟨⟨direction, after⟩, hdirection, h⟩ := bind_eq_ok_iff.1 h
    obtain ⟨last, hsign, heq⟩ := bind_eq_ok_iff.1 h
    cases heq
    obtain ⟨-, gap, hgap, rfl⟩ := skipBlanks_eq_iff.1 (readSign_eq_ok_iff.1 hsign)
    exact ⟨direction, gap, hgap, rfl, readDirection_eq_ok_iff.1 hdirection⟩
  · rintro ⟨direction, gap, hgap, rfl, rfl⟩
    refine bind_eq_ok_iff.2 ⟨⟨direction, _⟩, readDirection_eq_ok_iff.2 rfl, ?_⟩
    refine bind_eq_ok_iff.2 ⟨rest, readSign_eq_ok_iff.2 ?_, rfl⟩
    exact skipBlanks_eq_iff.2 ⟨sharp_cons rfl rest, gap, hgap, rfl⟩

theorem readCond_eq_ok_iff {head : Head} :
    readCond limit depth text = .ok (head, rest) ↔
      ∃ direction tile gap after, Blanks gap ∧ gap ≠ [] ∧ Blanks after ∧ depth < limit ∧
        head = .block (.cond ⟨direction, tile⟩) ∧
        text = direction.word ++ (gap ++ (tile.word ++ (after ++ '{' :: rest))) := by
  constructor
  · intro h
    obtain ⟨⟨direction, behind⟩, hdirection, h⟩ := bind_eq_ok_iff.1 h
    obtain ⟨next, hnext, h⟩ := bind_eq_ok_iff.1 h
    obtain ⟨⟨tile, last⟩, htile, h⟩ := bind_eq_ok_iff.1 h
    obtain ⟨hdepth, rfl, hlast⟩ := readOpening_eq_ok_iff.1 h
    obtain ⟨-, gap, hgap, hne, rfl⟩ := readGap_eq_ok_iff.1 hnext
    obtain ⟨-, after, hafter, rfl⟩ := skipBlanks_eq_iff.1 hlast
    refine ⟨direction, tile, gap, after, hgap, hne, hafter, hdepth, rfl, ?_⟩
    rw [readDirection_eq_ok_iff.1 hdirection, readTile_eq_ok_iff.1 htile]
  · rintro ⟨direction, tile, gap, after, hgap, hne, hafter, hdepth, rfl, rfl⟩
    refine bind_eq_ok_iff.2 ⟨⟨direction, _⟩, readDirection_eq_ok_iff.2 rfl, ?_⟩
    refine bind_eq_ok_iff.2 ⟨_, readGap_eq_ok_iff.2 ⟨sharp_word tile _, gap, hgap, hne, rfl⟩, ?_⟩
    refine bind_eq_ok_iff.2 ⟨⟨tile, _⟩, readTile_eq_ok_iff.2 rfl, ?_⟩
    refine readOpening_eq_ok_iff.2 ⟨hdepth, rfl, ?_⟩
    exact skipBlanks_eq_iff.2 ⟨sharp_cons rfl rest, after, hafter, rfl⟩

/-- A head begins with one of the three words, and goes on as that word says. -/
theorem readHead_eq_ok_iff {head : Head} :
    readHead limit depth text = .ok (head, rest) ↔
      (∃ after, text = moveWord ++ after ∧ readMove after = .ok (head, rest)) ∨
      (∃ gap after, Blanks gap ∧ text = loopWord ++ (gap ++ after) ∧
        readOpening limit depth .loop after = .ok (head, rest)) ∨
      ∃ after, text = ifWord ++ after ∧ readCond limit depth after = .ok (head, rest) := by
  constructor
  · intro h
    unfold readHead at h
    split at h
    · rename_i after hword
      exact Or.inl ⟨after, Text.afterWord?_eq_some_iff.1 hword, h⟩
    · split at h
      · rename_i after hword
        obtain ⟨gap, hgap, hafter⟩ := Text.exists_blanks_skipBlanks after
        refine Or.inr (Or.inl ⟨gap, _, hgap, ?_, h⟩)
        rw [← hafter]
        exact Text.afterWord?_eq_some_iff.1 hword
      · split at h
        · rename_i after hword
          exact Or.inr (Or.inr ⟨after, Text.afterWord?_eq_some_iff.1 hword, h⟩)
        · cases h
  · rintro (⟨after, rfl, h⟩ | ⟨gap, after, hgap, rfl, h⟩ | ⟨after, rfl, h⟩)
    · rw [readHead, afterWord?_append]
      exact h
    · have hmove : Text.afterWord? moveWord (loopWord ++ (gap ++ after)) = none := rfl
      obtain ⟨-, -, hafter⟩ := readOpening_eq_ok_iff.1 h
      rw [readHead, hmove, afterWord?_append]
      have hskip := skipBlanks_eq_iff.2 ⟨hafter ▸ sharp_cons rfl rest, gap, hgap, rfl⟩
      simp only [hskip]
      exact h
    · have hmove : Text.afterWord? moveWord (ifWord ++ after) = none := rfl
      have hloop : Text.afterWord? loopWord (ifWord ++ after) = none := rfl
      rw [readHead, hmove, hloop, afterWord?_append]
      exact h

theorem readHead_eq_move_iff {direction : Direction} :
    readHead limit depth text = .ok (.move direction, rest) ↔
      ∃ gap, Blanks gap ∧ text = moveWord ++ (direction.word ++ (gap ++ ';' :: rest)) := by
  constructor
  · intro h
    rcases readHead_eq_ok_iff.1 h with
      ⟨after, rfl, hmove⟩ | ⟨gap, after, hgap, rfl, hopening⟩ | ⟨after, rfl, hcond⟩
    · obtain ⟨found, gap, hgap, heq, rfl⟩ := readMove_eq_ok_iff.1 hmove
      cases heq
      exact ⟨gap, hgap, rfl⟩
    · obtain ⟨-, heq, -⟩ := readOpening_eq_ok_iff.1 hopening
      cases heq
    · obtain ⟨_, _, _, _, -, -, -, -, heq, -⟩ := readCond_eq_ok_iff.1 hcond
      cases heq
  · rintro ⟨gap, hgap, rfl⟩
    refine readHead_eq_ok_iff.2 (Or.inl ⟨_, rfl, ?_⟩)
    exact readMove_eq_ok_iff.2 ⟨direction, gap, hgap, rfl, rfl⟩

theorem readHead_eq_block_iff {header : Header} :
    readHead limit depth text = .ok (.block header, rest) ↔
      depth < limit ∧ ∃ front, Opens header front ∧ text = front ++ '{' :: rest := by
  constructor
  · intro h
    rcases readHead_eq_ok_iff.1 h with
      ⟨after, rfl, hmove⟩ | ⟨gap, after, hgap, rfl, hopening⟩ | ⟨after, rfl, hcond⟩
    · obtain ⟨_, _, -, heq, -⟩ := readMove_eq_ok_iff.1 hmove
      cases heq
    · obtain ⟨hdepth, heq, rfl⟩ := readOpening_eq_ok_iff.1 hopening
      cases heq
      refine ⟨hdepth, _, Opens.loop hgap, ?_⟩
      rw [List.append_assoc]
    · obtain ⟨direction, tile, gap, after, hgap, hne, hafter, hdepth, heq, rfl⟩ :=
        readCond_eq_ok_iff.1 hcond
      cases heq
      refine ⟨hdepth, _, Opens.cond direction tile hgap hne hafter, ?_⟩
      simp only [List.append_assoc]
  · rintro ⟨hdepth, front, hopens, rfl⟩
    cases hopens with
    | loop hgap =>
        refine readHead_eq_ok_iff.2 (Or.inr (Or.inl ⟨_, _, hgap, List.append_assoc .., ?_⟩))
        exact readOpening_eq_ok_iff.2 ⟨hdepth, rfl, rfl⟩
    | @cond gap after direction tile hgap hne hafter =>
        refine readHead_eq_ok_iff.2 (Or.inr (Or.inr ⟨_, List.append_assoc .., ?_⟩))
        refine readCond_eq_ok_iff.2
          ⟨direction, tile, gap, after, hgap, hne, hafter, hdepth, rfl, ?_⟩
        simp only [List.append_assoc]

/-- A head begins neither with a blank nor with a closing brace. -/
theorem exists_cons_of_readHead {head : Head}
    (h : readHead limit depth text = .ok (head, rest)) :
    ∃ char more, text = char :: more ∧ Text.isBlank char = false ∧ char ≠ '}' := by
  rcases readHead_eq_ok_iff.1 h with ⟨after, rfl, -⟩ | ⟨gap, after, -, rfl, -⟩ | ⟨after, rfl, -⟩
  · exact ⟨'m', _, rfl, rfl, by decide⟩
  · exact ⟨'l', _, rfl, rfl, by decide⟩
  · exact ⟨'i', _, rfl, rfl, by decide⟩

end Heads

theorem readFrom_eq (limit : Nat) (blocks : List OpenBlock) (done : List Stmt)
    (text : List Char) :
    readFrom limit blocks done text =
      match Text.skipBlanks text with
      | [] =>
          match blocks with
          | [] => .ok done.reverse
          | _ :: _ => .error ⟨.unterminated, []⟩
      | '}' :: rest =>
          match blocks with
          | [] => .error ⟨.unmatched, '}' :: rest⟩
          | block :: blocks =>
              readFrom limit blocks (block.header.close done.reverse :: block.before) rest
      | char :: rest =>
          match readHead limit blocks.length (char :: rest) with
          | .error stop => .error stop
          | .ok (.move direction, rest) => readFrom limit blocks (.move direction :: done) rest
          | .ok (.block header, rest) => readFrom limit (⟨header, done⟩ :: blocks) [] rest := by
  rw [readFrom.eq_def]
  split
  · rename_i hskip
    cases blocks <;> simp only [hskip]
  · rename_i hskip
    cases blocks <;> simp only [hskip]
  · rename_i char rest hchar hskip
    simp only [hskip]
    split
    · rename_i hhead
      simp [hhead]
    · rename_i hhead
      simp [hhead]
    · rename_i hhead
      simp [hhead]

section Steps

variable {blocks : List OpenBlock} {done : List Stmt} {gap : List Char}

theorem readFrom_gap (hgap : Blanks gap) :
    readFrom limit blocks done (gap ++ text) = readFrom limit blocks done text := by
  rw [readFrom_eq, Text.skipBlanks_append hgap, ← readFrom_eq]

/-- At the head of a statement the reader goes by that head. -/
theorem readFrom_head {head : Head}
    (h : readHead limit blocks.length text = .ok (head, rest)) :
    readFrom limit blocks done text =
      match head with
      | .move direction => readFrom limit blocks (.move direction :: done) rest
      | .block header => readFrom limit (⟨header, done⟩ :: blocks) [] rest := by
  obtain ⟨char, more, rfl, hblank, hbrace⟩ := exists_cons_of_readHead h
  rw [readFrom_eq, Text.skipBlanks_cons hblank]
  simp only [h]
  cases head <;> rfl

theorem readFrom_move (direction : Direction) (hgap : Blanks gap) :
    readFrom limit blocks done (moveWord ++ (direction.word ++ (gap ++ ';' :: rest))) =
      readFrom limit blocks (.move direction :: done) rest :=
  readFrom_head (readHead_eq_move_iff.2 ⟨gap, hgap, rfl⟩)

theorem readFrom_open {header : Header} {front : List Char} (hopens : Opens header front)
    (hdepth : blocks.length < limit) :
    readFrom limit blocks done (front ++ '{' :: rest) =
      readFrom limit (⟨header, done⟩ :: blocks) [] rest :=
  readFrom_head (readHead_eq_block_iff.2 ⟨hdepth, front, hopens, rfl⟩)

theorem readFrom_close (block : OpenBlock) :
    readFrom limit (block :: blocks) done ('}' :: rest) =
      readFrom limit blocks (block.header.close done.reverse :: block.before) rest := by
  rw [readFrom_eq, Text.skipBlanks_cons rfl]
  rfl

theorem readFrom_nil : readFrom limit [] done [] = .ok done.reverse := by
  rw [readFrom_eq]
  rfl

end Steps

/-- What a text of the phrase does to the reader, wherever it stands. -/
def Reads (limit : Nat) : Phrase → List Char → Prop
  | .program stmts, text | .sequence stmts, text =>
      ∀ (blocks : List OpenBlock) (done : List Stmt) (rest : List Char),
        Stmt.nestingAll stmts + blocks.length ≤ limit →
        readFrom limit blocks done (text ++ rest) =
          readFrom limit blocks (stmts.reverse ++ done) rest
  | .statement stmt, text =>
      ∀ (blocks : List OpenBlock) (done : List Stmt) (rest : List Char),
        stmt.nesting + blocks.length ≤ limit →
        readFrom limit blocks done (text ++ rest) = readFrom limit blocks (stmt :: done) rest
  | .block body, text =>
      ∀ (header : Header) (front : List Char) (blocks : List OpenBlock) (done : List Stmt)
        (rest : List Char), Opens header front →
        Stmt.nestingAll body + 1 + blocks.length ≤ limit →
        readFrom limit blocks done (front ++ (text ++ rest)) =
          readFrom limit blocks (header.close body :: done) rest

/-- The reader takes a derived text for what it stands for. -/
theorem reads_of_derives {phrase : Phrase} (limit : Nat) (h : Derives phrase text) :
    Reads limit phrase text := by
  induction h with
  | program hgap htext ih =>
      intro blocks done rest hlimit
      rw [List.append_assoc, readFrom_gap hgap]
      exact ih blocks done rest hlimit
  | nil =>
      intro blocks done rest hlimit
      rfl
  | cons hfirst hgap htext ihfirst ihtext =>
      intro blocks done rest hlimit
      simp only [Stmt.nestingAll] at hlimit
      rw [List.append_assoc, List.append_assoc, ihfirst blocks done _ (by omega),
        readFrom_gap hgap, ihtext blocks _ rest (by omega)]
      simp
  | move direction hgap =>
      intro blocks done rest hlimit
      simp only [List.append_assoc, List.singleton_append]
      exact readFrom_move direction hgap
  | loop hgap htext ih =>
      intro blocks done rest hlimit
      rw [List.append_assoc, List.append_assoc, ← List.append_assoc]
      exact ih .loop _ blocks done rest (Opens.loop hgap) hlimit
  | cond direction tile hgap hne hafter htext ih =>
      intro blocks done rest hlimit
      have hread := ih (.cond ⟨direction, tile⟩) _ blocks done rest
        (Opens.cond direction tile hgap hne hafter) hlimit
      simp only [List.append_assoc] at hread ⊢
      exact hread
  | @block gap text body hgap htext ih =>
      intro header front blocks done rest hopens hlimit
      have hbody : Stmt.nestingAll body + ((⟨header, done⟩ : OpenBlock) :: blocks).length ≤
          limit := by
        rw [List.length_cons]
        omega
      simp only [List.cons_append, List.append_assoc, List.nil_append]
      rw [readFrom_open hopens (by omega), readFrom_gap hgap, ih _ _ _ hbody, readFrom_close]
      simp

/-- What the open blocks and the statements so far ask of the rest of the text: it
ends the blocks one by one, and together they make the tree. -/
inductive Closes (limit : Nat) : List OpenBlock → List Stmt → List Char → List Stmt → Prop
  | last {done stmts : List Stmt} {text : List Char} (htext : Derives (.program stmts) text)
      (hlimit : Stmt.nestingAll stmts ≤ limit) :
      Closes limit [] done text (done.reverse ++ stmts)
  | inner {block : OpenBlock} {blocks : List OpenBlock} {done stmts tree : List Stmt}
      {text rest : List Char} (htext : Derives (.program stmts) text)
      (hlimit : Stmt.nestingAll stmts + (blocks.length + 1) ≤ limit)
      (hrest : Closes limit blocks
        (block.header.close (done.reverse ++ stmts) :: block.before) rest tree) :
      Closes limit (block :: blocks) done (text ++ '}' :: rest) tree

namespace Closes

variable {blocks : List OpenBlock} {done tree : List Stmt}

theorem gap {gap : List Char} (hgap : Blanks gap) (h : Closes limit blocks done text tree) :
    Closes limit blocks done (gap ++ text) tree := by
  cases h with
  | last htext hlimit => exact last (htext.gap_program hgap) hlimit
  | inner htext hlimit hrest =>
      rw [← List.append_assoc]
      exact inner (htext.gap_program hgap) hlimit hrest

theorem of_skipBlanks (h : Closes limit blocks done (Text.skipBlanks text) tree) :
    Closes limit blocks done text tree := by
  obtain ⟨gap, hgap, htext⟩ := Text.exists_blanks_skipBlanks text
  rw [htext]
  exact h.gap hgap

theorem nil : Closes limit [] done [] done.reverse := by
  have hlast : Closes limit [] done [] (done.reverse ++ []) :=
    last Derives.nil_program (Nat.zero_le limit)
  rwa [List.append_nil] at hlast

/-- The brace that closes a block makes it a statement of the block around it. -/
theorem close {block : OpenBlock} (hdepth : blocks.length + 1 ≤ limit)
    (h : Closes limit blocks (block.header.close done.reverse :: block.before) rest tree) :
    Closes limit (block :: blocks) done ('}' :: rest) tree := by
  refine inner Derives.nil_program ?_ ?_
  · simpa [Stmt.nestingAll] using hdepth
  · rwa [List.append_nil]

theorem statement {first : List Char} {stmt : Stmt} (hfirst : Derives (.statement stmt) first)
    (hdepth : stmt.nesting + blocks.length ≤ limit)
    (h : Closes limit blocks (stmt :: done) text tree) :
    Closes limit blocks done (first ++ text) tree := by
  cases h with
  | @last _ stmts text htext hlimit =>
      have hboth := hfirst.cons_program htext
      rw [List.reverse_cons, List.append_assoc, List.singleton_append]
      refine last hboth ?_
      simp only [List.length_nil] at hdepth
      simp only [Stmt.nestingAll]
      omega
  | @inner block blocks _ stmts _ text rest htext hlimit hrest =>
      have hboth := hfirst.cons_program htext
      rw [List.reverse_cons, List.append_assoc, List.singleton_append] at hrest
      rw [← List.append_assoc]
      refine inner hboth ?_ hrest
      simp only [List.length_cons] at hdepth
      simp only [Stmt.nestingAll]
      omega

/-- The text behind the brace of a block closes it, and so makes it a statement. -/
theorem block {header : Header} {front : List Char} (hopens : Opens header front)
    (h : Closes limit (⟨header, done⟩ :: blocks) [] text tree) :
    Closes limit blocks done (front ++ '{' :: text) tree := by
  cases h with
  | @inner _ _ _ body _ inside rest htext hlimit hrest =>
      obtain ⟨hmore, hseq⟩ := htext
      have hstmt := hopens.derives (Derives.block hmore hseq)
      have := statement hstmt (by rw [Stmt.nesting_close]; omega) hrest
      simpa using this

end Closes

/-- What the reader takes has the form that the open blocks ask for. -/
theorem closes_of_readFrom {blocks : List OpenBlock} {done tree : List Stmt}
    (hdepth : blocks.length ≤ limit) (h : readFrom limit blocks done text = .ok tree) :
    Closes limit blocks done text tree := by
  fun_induction readFrom limit blocks done text with
  | case1 done text hskip =>
      cases h
      refine Closes.of_skipBlanks ?_
      rw [hskip]
      exact Closes.nil
  | case2 => cases h
  | case3 => cases h
  | case4 done text rest hskip block blocks ih =>
      rw [List.unattach_reverse, List.unattach_attach] at ih
      rw [List.length_cons] at hdepth
      refine Closes.of_skipBlanks ?_
      rw [hskip]
      exact Closes.close hdepth (ih (by omega) h)
  | case5 => cases h
  | case6 blocks done text char more hchar hskip direction rest hhead ih =>
      obtain ⟨gap, hgap, htext⟩ := readHead_eq_move_iff.1 hhead
      have hmove := (ih hdepth h).statement (Derives.move direction hgap)
        (by simpa [Stmt.nesting] using hdepth)
      refine Closes.of_skipBlanks ?_
      rw [hskip, htext]
      simpa [moveWord] using hmove
  | case7 blocks done text char more hchar hskip header rest hhead ih =>
      obtain ⟨hdeep, front, hopens, htext⟩ := readHead_eq_block_iff.1 hhead
      refine Closes.of_skipBlanks ?_
      rw [hskip, htext]
      exact Closes.block hopens (ih hdeep h)

/-- The reader takes a whole text for a tree exactly when the text stands for the tree
and its blocks are not nested deeper than the bound. -/
theorem readFrom_eq_ok_iff {tree : List Stmt} :
    readFrom limit [] [] text = .ok tree ↔
      Derives (.program tree) text ∧ Stmt.nestingAll tree ≤ limit := by
  constructor
  · intro h
    cases closes_of_readFrom (Nat.zero_le limit) h with
    | last htext hlimit => exact ⟨htext, hlimit⟩
  · rintro ⟨htext, hlimit⟩
    have hread := reads_of_derives limit htext [] [] [] hlimit
    rw [List.append_nil, List.append_nil, readFrom_nil, List.reverse_reverse] at hread
    exact hread

end Reader

theorem parse_eq_ok_iff {source : List Char} {tree : List Stmt} :
    parse source = .ok tree ↔ Reader.readFrom maxNesting [] [] source = .ok tree := by
  unfold parse
  split <;> simp_all

theorem parse_mark_source {source : List Char} {rejection : Rejection}
    (h : parse source = .error rejection) : rejection.mark.source = source := by
  unfold parse at h
  split at h
  · cases h
  · cases h
    rfl

/-- No text stands for two programs: the reader takes it for both, under a bound that is
large enough for both. -/
theorem Derives.tree_unique {source : List Char} {one other : List Stmt}
    (hone : Derives (.program one) source) (hother : Derives (.program other) source) :
    one = other := by
  have hread := Reader.readFrom_eq_ok_iff.2 ⟨hone, le_max_left _ (Stmt.nestingAll other)⟩
  have hagain := Reader.readFrom_eq_ok_iff.2 ⟨hother, le_max_right (Stmt.nestingAll one) _⟩
  exact Except.ok.inj (hread.symm.trans hagain)

/-- A text is read as a tree exactly when it stands for the tree and its blocks are nested
at most 64 deep; no text stands for two trees; and every other text is rejected, with a
mark in the text itself. -/
theorem parse_iff_derives :
    (∀ source tree,
      parse source = .ok tree ↔
        Derives (.program tree) source ∧ Stmt.nestingAll tree ≤ 64) ∧
    (∀ source one other,
      Derives (.program one) source → Derives (.program other) source → one = other) ∧
    (∀ source,
      (¬ ∃ tree, Derives (.program tree) source ∧ Stmt.nestingAll tree ≤ 64) →
        ∃ rejection, parse source = .error rejection ∧ rejection.mark.source = source) := by
  have hiff (source : List Char) (tree : List Stmt) :
      parse source = .ok tree ↔
        Derives (.program tree) source ∧ Stmt.nestingAll tree ≤ 64 :=
    parse_eq_ok_iff.trans Reader.readFrom_eq_ok_iff
  refine ⟨hiff, fun source one other => Derives.tree_unique, fun source hnone => ?_⟩
  cases hparse : parse source with
  | ok tree => exact absurd ⟨tree, (hiff source tree).1 hparse⟩ hnone
  | error rejection => exact ⟨rejection, rfl, parse_mark_source hparse⟩

end RiverPuzzle
