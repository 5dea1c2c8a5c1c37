import Mathlib.Data.Set.Insert
import RiverPuzzle.Proofs.Reading
import RiverPuzzle.Result

/-!
# Where the reader stops

Behind what it has read of a statement the reader waits for one of some words, and what it
complains about is that none of them is there.  The places at which it waits are few, whatever
the text is.  The main statement follows the reader to the place at which it stops: first it
reads whole moves and opens and closes blocks, then perhaps a part of a statement, and
then it waits in vain.  It never looks past the end of its text, nor does it go back.
-/

namespace RiverPuzzle

namespace Reader

/-- The words with which a statement begins. -/
def headWords : Set (List Char) :=
  {moveWord, loopWord, ifWord}

/-- The words that are one blank. -/
def blankWords : Set (List Char) :=
  {word | ∃ char, Text.isBlank char = true ∧ word = [char]}

/-- None of the words begins the text. -/
def Lacks (text : List Char) (words : Set (List Char)) : Prop :=
  ∀ word ∈ words, ¬word <+: text

/-- Behind this much of a statement, with `depth` blocks open around it, the reader waits for
one of the words, and has this complaint if there is none. -/
inductive Awaits (limit depth : Nat) : List Char → Complaint → Set (List Char) → Prop
  | way {word : List Char} (hword : word = moveWord ∨ word = ifWord) :
      Awaits limit depth word .direction (Set.range Direction.word)
  | semicolon {gap : List Char} (direction : Direction) (hgap : Blanks gap) :
      Awaits limit depth (moveWord ++ (direction.word ++ gap)) (.sign ';') ({[';']} ∪ blankWords)
  | gap (direction : Direction) :
      Awaits limit depth (ifWord ++ direction.word) .blankBeforeTile blankWords
  | tile {gap : List Char} (direction : Direction) (hgap : Blanks gap) (hne : gap ≠ []) :
      Awaits limit depth (ifWord ++ (direction.word ++ gap)) .tile
        (Set.range Tile.word ∪ blankWords)
  | brace {header : Header} {front : List Char} (hopens : Opens header front)
      (hdepth : depth < limit) :
      Awaits limit depth front (.sign '{') ({['{']} ∪ blankWords)
  | room {header : Header} {front : List Char} (hopens : Opens header front)
      (hdepth : limit ≤ depth) :
      Awaits limit depth front .tooDeep blankWords

/-- With `depth` blocks open the reader stops behind this much of a statement, with this
complaint and with the text that it has not read. -/
inductive Halts (limit depth : Nat) : List Char → Complaint → List Char → Prop
  | within {front rest : List Char} {complaint : Complaint} {words : Set (List Char)}
      (hawaits : Awaits limit depth front complaint words) (hlacks : Lacks rest words) :
      Halts limit depth front complaint rest
  | statement {rest : List Char} (hlacks : Lacks rest (headWords ∪ blankWords))
      (hbrace : ¬['}'] <+: rest) (hne : rest ≠ []) :
      Halts limit depth [] .statement rest
  | unterminated (hdepth : 0 < depth) : Halts limit depth [] .unterminated []
  | unmatched {rest : List Char} (hdepth : depth = 0) (hbrace : ['}'] <+: rest) :
      Halts limit depth [] .unmatched rest

/-- The text takes the reader from the first state to the second one. -/
inductive Leads (limit : Nat) :
    List OpenBlock → List Stmt → List Char → List OpenBlock → List Stmt → Prop
  | refl {blocks : List OpenBlock} {done : List Stmt} : Leads limit blocks done [] blocks done
  | gap {blocks opened : List OpenBlock} {done made : List Stmt} {gap text : List Char}
      (hgap : Blanks gap) (h : Leads limit blocks done text opened made) :
      Leads limit blocks done (gap ++ text) opened made
  | move {blocks opened : List OpenBlock} {done made : List Stmt} {gap text : List Char}
      (direction : Direction) (hgap : Blanks gap)
      (h : Leads limit blocks (.move direction :: done) text opened made) :
      Leads limit blocks done (moveWord ++ (direction.word ++ (gap ++ ';' :: text))) opened made
  | opening {blocks opened : List OpenBlock} {done made : List Stmt} {header : Header}
      {front text : List Char} (hopens : Opens header front) (hdepth : blocks.length < limit)
      (h : Leads limit (⟨header, done⟩ :: blocks) [] text opened made) :
      Leads limit blocks done (front ++ '{' :: text) opened made
  | closing {blocks opened : List OpenBlock} {done made : List Stmt} {text : List Char}
      (block : OpenBlock)
      (h : Leads limit blocks (block.header.close done.reverse :: block.before) text opened made) :
      Leads limit (block :: blocks) done ('}' :: text) opened made

section

variable {limit depth : Nat} {text rest : List Char} {stop : Stop} {one other : Set (List Char)}

section Words

theorem lacks_union : Lacks text (one ∪ other) ↔ Lacks text one ∧ Lacks text other := by
  simp only [Lacks, Set.mem_union, or_imp, forall_and]

theorem lacks_singleton {word : List Char} : Lacks text {word} ↔ ¬word <+: text := by
  simp [Lacks]

theorem sharp_cons_iff {char : Char} :
    Sharp (char :: rest) ↔ Text.isBlank char = false := by
  rw [Sharp, Text.skipBlanks, List.dropWhile_eq_self_iff]
  simp

/-- A text lacks all blanks in front exactly if there is nothing to skip. -/
theorem lacks_blankWords_iff : Lacks text blankWords ↔ Sharp text := by
  cases text with
  | nil =>
      refine iff_of_true ?_ rfl
      rintro _ ⟨char, -, rfl⟩ hnil
      exact absurd (List.prefix_nil.1 hnil) (List.cons_ne_nil char [])
  | cons first rest =>
      rw [sharp_cons_iff]
      constructor
      · intro hlacks
        by_contra hblank
        exact hlacks [first] ⟨first, Bool.eq_true_of_not_eq_false hblank, rfl⟩ ⟨rest, rfl⟩
      · rintro hblank _ ⟨char, hchar, rfl⟩ hbegins
        obtain ⟨rfl, -⟩ := List.cons_prefix_cons.1 hbegins
        rw [hblank] at hchar
        cases hchar

theorem sharp_skipBlanks (text : List Char) : Sharp (Text.skipBlanks text) :=
  List.dropWhile_idempotent _ text

theorem afterWord?_eq_none_iff {word : List Char} :
    Text.afterWord? word text = none ↔ ¬word <+: text := by
  rw [Option.eq_none_iff_forall_ne_some]
  constructor
  · rintro hnone ⟨rest, hrest⟩
    exact hnone rest (Text.afterWord?_eq_some_iff.2 hrest.symm)
  · rintro hlacks rest hsome
    exact hlacks ⟨rest, (Text.afterWord?_eq_some_iff.1 hsome).symm⟩

/-- Whoever takes the first word that begins a text fails if none does. -/
theorem eq_error_iff_of_words {α : Type} {word : α → List Char} {complaint : Complaint}
    {result : Except Stop (α × List Char)}
    (hok : ∀ choice rest, result = .ok (choice, rest) ↔ text = word choice ++ rest)
    (hstop : ∀ stop, result = .error stop → stop = ⟨complaint, text⟩) :
    result = .error stop ↔ stop = ⟨complaint, text⟩ ∧ Lacks text (Set.range word) := by
  constructor
  · intro hresult
    refine ⟨hstop stop hresult, ?_⟩
    rintro _ ⟨choice, rfl⟩ ⟨rest, hrest⟩
    rw [(hok choice rest).2 hrest.symm] at hresult
    cases hresult
  · rintro ⟨rfl, hlacks⟩
    cases hresult : result with
    | ok found =>
        have htext := (hok found.1 found.2).1 hresult
        exact absurd ⟨found.2, htext.symm⟩ (hlacks _ ⟨found.1, rfl⟩)
    | error found => rw [hstop found hresult]

theorem readDirection_eq_error_iff :
    readDirection text = .error stop ↔
      stop = ⟨.direction, text⟩ ∧ Lacks text (Set.range Direction.word) := by
  refine eq_error_iff_of_words (fun _ _ => readDirection_eq_ok_iff) fun found hfound => ?_
  unfold readDirection at hfound
  split at hfound <;> cases hfound
  rfl

theorem readTile_eq_error_iff :
    readTile text = .error stop ↔
      stop = ⟨.tile, text⟩ ∧ Lacks text (Set.range Tile.word) := by
  refine eq_error_iff_of_words (fun _ _ => readTile_eq_ok_iff) fun found hfound => ?_
  unfold readTile at hfound
  split at hfound <;> cases hfound
  rfl

theorem readSign_eq_error_iff {sign : Char} :
    readSign sign text = .error stop ↔ stop = ⟨.sign sign, text⟩ ∧ Lacks text {[sign]} := by
  rw [lacks_singleton]
  cases text with
  | nil => simp [readSign, eq_comm]
  | cons char rest =>
      by_cases hchar : char = sign
      · simp [readSign, hchar]
      · have hne : ¬sign = char := fun h => hchar h.symm
        simp [readSign, hchar, hne, eq_comm]

theorem readGap_eq_error_iff :
    readGap text = .error stop ↔ stop = ⟨.blankBeforeTile, text⟩ ∧ Lacks text blankWords := by
  rw [lacks_blankWords_iff]
  cases text with
  | nil =>
      have hsharp : Sharp [] := rfl
      rw [readGap, Except.error.injEq, and_iff_left hsharp]
      exact eq_comm
  | cons char rest =>
      rw [readGap, sharp_cons_iff]
      cases Text.isBlank char with
      | true => simp
      | false =>
          rw [if_neg Bool.false_ne_true, Except.error.injEq, and_iff_left rfl]
          exact eq_comm

theorem readOpening_eq_error_iff {header : Header} :
    readOpening limit depth header text = .error stop ↔
      limit ≤ depth ∧ stop = ⟨.tooDeep, text⟩ ∨
        depth < limit ∧ stop = ⟨.sign '{', text⟩ ∧ Lacks text {['{']} := by
  unfold readOpening
  by_cases hdeep : limit ≤ depth
  · simp [hdeep, Nat.not_lt.2 hdeep, eq_comm]
  · rw [if_neg hdeep, map_eq_error_iff, readSign_eq_error_iff]
    simp [hdeep, Nat.lt_of_not_le hdeep]

end Words

section Heads

theorem readMove_eq_error_iff :
    readMove text = .error stop ↔
      stop = ⟨.direction, text⟩ ∧ Lacks text (Set.range Direction.word) ∨
        ∃ (direction : Direction) (gap : List Char), Blanks gap ∧
          text = direction.word ++ (gap ++ stop.rest) ∧ stop.complaint = .sign ';' ∧
          Lacks stop.rest ({[';']} ∪ blankWords) := by
  rw [← readDirection_eq_error_iff, readMove, bind_eq_error_iff]
  refine or_congr_right ?_
  constructor
  · rintro ⟨⟨direction, behind⟩, hdirection, h⟩
    obtain h | ⟨last, -, h⟩ := bind_eq_error_iff.1 h
    · obtain ⟨rfl, hlacks⟩ := readSign_eq_error_iff.1 h
      obtain ⟨gap, hgap, hbehind⟩ := Text.exists_blanks_skipBlanks behind
      refine ⟨direction, gap, hgap, ?_, rfl, ?_⟩
      · rw [← hbehind, readDirection_eq_ok_iff.1 hdirection]
      · exact lacks_union.2 ⟨hlacks, lacks_blankWords_iff.2 (sharp_skipBlanks behind)⟩
    · cases h
  · rintro ⟨direction, gap, hgap, rfl, hcomplaint, hlacks⟩
    obtain ⟨hsign, hblank⟩ := lacks_union.1 hlacks
    have hskip := skipBlanks_eq_iff.2 ⟨lacks_blankWords_iff.1 hblank, gap, hgap, rfl⟩
    refine ⟨⟨direction, _⟩, readDirection_eq_ok_iff.2 rfl, bind_eq_error_iff.2 (.inl ?_)⟩
    rw [hskip, readSign_eq_error_iff, ← hcomplaint]
    exact ⟨rfl, hsign⟩

/-- What stands behind the word of a guarded block and in front of its brace can go wrong in
four ways. -/
theorem readCond_eq_error_iff :
    readCond limit depth text = .error stop ↔
      stop = ⟨.direction, text⟩ ∧ Lacks text (Set.range Direction.word) ∨
        ∃ (direction : Direction) (behind : List Char), text = direction.word ++ behind ∧
          (stop = ⟨.blankBeforeTile, behind⟩ ∧ Lacks behind blankWords ∨
            ∃ gap next, Blanks gap ∧ gap ≠ [] ∧ behind = gap ++ next ∧ Sharp next ∧
              (stop = ⟨.tile, next⟩ ∧ Lacks next (Set.range Tile.word) ∨
                ∃ (tile : Tile) (last : List Char), next = tile.word ++ last ∧
                  readOpening limit depth (.cond ⟨direction, tile⟩) (Text.skipBlanks last) =
                    .error stop)) := by
  rw [← readDirection_eq_error_iff, readCond, bind_eq_error_iff]
  refine or_congr_right ?_
  constructor
  · rintro ⟨⟨direction, behind⟩, hdirection, h⟩
    refine ⟨direction, behind, readDirection_eq_ok_iff.1 hdirection, ?_⟩
    obtain h | ⟨next, hnext, h⟩ := bind_eq_error_iff.1 h
    · exact .inl (readGap_eq_error_iff.1 h)
    · obtain ⟨hsharp, gap, hgap, hne, hbehind⟩ := readGap_eq_ok_iff.1 hnext
      refine .inr ⟨gap, next, hgap, hne, hbehind, hsharp, ?_⟩
      obtain h | ⟨⟨tile, last⟩, htile, h⟩ := bind_eq_error_iff.1 h
      · exact .inl (readTile_eq_error_iff.1 h)
      · exact .inr ⟨tile, last, readTile_eq_ok_iff.1 htile, h⟩
  · rintro ⟨direction, behind, htext, h⟩
    refine ⟨⟨direction, behind⟩, readDirection_eq_ok_iff.2 htext, bind_eq_error_iff.2 ?_⟩
    obtain h | ⟨gap, next, hgap, hne, hbehind, hsharp, h⟩ := h
    · exact .inl (readGap_eq_error_iff.2 h)
    · refine .inr ⟨next, readGap_eq_ok_iff.2 ⟨hsharp, gap, hgap, hne, hbehind⟩, ?_⟩
      obtain h | ⟨tile, last, hnext, h⟩ := h
      · exact bind_eq_error_iff.2 (.inl (readTile_eq_error_iff.2 h))
      · exact bind_eq_error_iff.2 (.inr ⟨⟨tile, last⟩, readTile_eq_ok_iff.2 hnext, h⟩)

theorem readHead_moveWord (text : List Char) :
    readHead limit depth (moveWord ++ text) = readMove text := by
  rw [readHead, afterWord?_append]

theorem readHead_loopWord (text : List Char) :
    readHead limit depth (loopWord ++ text) =
      readOpening limit depth .loop (Text.skipBlanks text) := by
  have hmove : Text.afterWord? moveWord (loopWord ++ text) = none := rfl
  rw [readHead, hmove, afterWord?_append]

theorem readHead_ifWord (text : List Char) :
    readHead limit depth (ifWord ++ text) = readCond limit depth text := by
  have hmove : Text.afterWord? moveWord (ifWord ++ text) = none := rfl
  have hloop : Text.afterWord? loopWord (ifWord ++ text) = none := rfl
  rw [readHead, hmove, hloop, afterWord?_append]

/-- In front of its brace a block of either kind has the same needs. -/
theorem readHead_of_opens {header : Header} {front : List Char} (hopens : Opens header front)
    (hsharp : Sharp rest) :
    readHead limit depth (front ++ rest) = readOpening limit depth header rest := by
  cases hopens with
  | loop hgap =>
      rw [List.append_assoc, readHead_loopWord, skipBlanks_eq_iff.2 ⟨hsharp, _, hgap, rfl⟩]
  | @cond gap after direction tile hgap hne hafter =>
      have hdirection := readDirection_eq_ok_iff.2
        (rfl : direction.word ++ (gap ++ (tile.word ++ (after ++ rest))) = _)
      have hgap := readGap_eq_ok_iff.2 ⟨sharp_word tile (after ++ rest), gap, hgap, hne, rfl⟩
      have htile := readTile_eq_ok_iff.2 (rfl : tile.word ++ (after ++ rest) = _)
      have hskip := skipBlanks_eq_iff.2 ⟨hsharp, after, hafter, rfl⟩
      simp only [List.append_assoc]
      rw [readHead_ifWord]
      simp only [readCond, hdirection, hgap, htile, hskip, bind, Except.bind]

/-- The reader stops where it waits in vain. -/
theorem Awaits.readHead_eq {front : List Char} {complaint : Complaint}
    {words : Set (List Char)} (h : Awaits limit depth front complaint words)
    (hlacks : Lacks rest words) :
    readHead limit depth (front ++ rest) = .error ⟨complaint, rest⟩ := by
  cases h with
  | way hword =>
      obtain rfl | rfl := hword
      · rw [readHead_moveWord]
        exact readMove_eq_error_iff.2 (.inl ⟨rfl, hlacks⟩)
      · rw [readHead_ifWord]
        exact readCond_eq_error_iff.2 (.inl ⟨rfl, hlacks⟩)
  | semicolon direction hgap =>
      simp only [List.append_assoc]
      rw [readHead_moveWord]
      exact readMove_eq_error_iff.2 (.inr ⟨direction, _, hgap, rfl, rfl, hlacks⟩)
  | gap direction =>
      rw [List.append_assoc, readHead_ifWord]
      exact readCond_eq_error_iff.2 (.inr ⟨direction, _, rfl, .inl ⟨rfl, hlacks⟩⟩)
  | tile direction hgap hne =>
      obtain ⟨hwords, hblank⟩ := lacks_union.1 hlacks
      simp only [List.append_assoc]
      rw [readHead_ifWord]
      exact readCond_eq_error_iff.2 (.inr ⟨direction, _, rfl, .inr
        ⟨_, rest, hgap, hne, rfl, lacks_blankWords_iff.1 hblank, .inl ⟨rfl, hwords⟩⟩⟩)
  | brace hopens hdepth =>
      obtain ⟨hbrace, hblank⟩ := lacks_union.1 hlacks
      rw [readHead_of_opens hopens (lacks_blankWords_iff.1 hblank)]
      exact readOpening_eq_error_iff.2 (.inr ⟨hdepth, rfl, hbrace⟩)
  | room hopens hdepth =>
      rw [readHead_of_opens hopens (lacks_blankWords_iff.1 hlacks)]
      exact readOpening_eq_error_iff.2 (.inl ⟨hdepth, rfl⟩)

/-- Behind a beginning of the text the reader waits in vain. -/
def Fails (limit depth : Nat) (text : List Char) (stop : Stop) : Prop :=
  ∃ front words, Awaits limit depth front stop.complaint words ∧ text = front ++ stop.rest ∧
    Lacks stop.rest words

theorem fails_of_readOpening {header : Header} {front : List Char} (hopens : Opens header front)
    (hsharp : Sharp text) (h : readOpening limit depth header text = .error stop) :
    Fails limit depth (front ++ text) stop := by
  have hblank := lacks_blankWords_iff.2 hsharp
  obtain ⟨hdepth, rfl⟩ | ⟨hdepth, rfl, hbrace⟩ := readOpening_eq_error_iff.1 h
  · exact ⟨front, _, .room hopens hdepth, rfl, hblank⟩
  · exact ⟨front, _, .brace hopens hdepth, rfl, lacks_union.2 ⟨hbrace, hblank⟩⟩

theorem fails_of_readMove (h : readMove text = .error stop) :
    Fails limit depth (moveWord ++ text) stop := by
  obtain ⟨rfl, hlacks⟩ | ⟨direction, gap, hgap, rfl, hcomplaint, hlacks⟩ :=
    readMove_eq_error_iff.1 h
  · exact ⟨_, _, .way (.inl rfl), rfl, hlacks⟩
  · refine ⟨moveWord ++ (direction.word ++ gap), _, ?_, ?_, hlacks⟩
    · rw [hcomplaint]
      exact .semicolon direction hgap
    · simp only [List.append_assoc]

theorem fails_of_readCond (h : readCond limit depth text = .error stop) :
    Fails limit depth (ifWord ++ text) stop := by
  obtain ⟨rfl, hlacks⟩ | ⟨direction, behind, rfl, ⟨rfl, hlacks⟩ |
    ⟨gap, next, hgap, hne, rfl, hsharp, ⟨rfl, hlacks⟩ | ⟨tile, last, rfl, hopening⟩⟩⟩ :=
    readCond_eq_error_iff.1 h
  · exact ⟨_, _, .way (.inr rfl), rfl, hlacks⟩
  · exact ⟨_, _, .gap direction, (List.append_assoc ..).symm, hlacks⟩
  · refine ⟨_, _, .tile direction hgap hne, ?_,
      lacks_union.2 ⟨hlacks, lacks_blankWords_iff.2 hsharp⟩⟩
    simp only [List.append_assoc]
  · obtain ⟨after, hafter, hlast⟩ := Text.exists_blanks_skipBlanks last
    have hfails := fails_of_readOpening (Opens.cond direction tile hgap hne hafter)
      (sharp_skipBlanks last) hopening
    simp only [List.append_assoc] at hfails
    rwa [← hlast] at hfails

/-- A head that the reader does not take begins with none of the three words, or the reader
waits in vain behind a part of it. -/
theorem readHead_eq_error_iff :
    readHead limit depth text = .error stop ↔
      stop = ⟨.statement, text⟩ ∧ Lacks text headWords ∨ Fails limit depth text stop := by
  constructor
  · intro h
    unfold readHead at h
    split at h
    · rename_i rest hmove
      rw [Text.afterWord?_eq_some_iff.1 hmove]
      exact .inr (fails_of_readMove h)
    · rename_i hmove
      split at h
      · rename_i rest hloop
        obtain ⟨gap, hgap, hrest⟩ := Text.exists_blanks_skipBlanks rest
        have hfails := fails_of_readOpening (.loop hgap) (sharp_skipBlanks rest) h
        rw [List.append_assoc, ← hrest, ← Text.afterWord?_eq_some_iff.1 hloop] at hfails
        exact .inr hfails
      · rename_i hloop
        split at h
        · rename_i rest hif
          rw [Text.afterWord?_eq_some_iff.1 hif]
          exact .inr (fails_of_readCond h)
        · rename_i hif
          cases h
          refine .inl ⟨rfl, ?_⟩
          rintro word (rfl | rfl | rfl)
          · exact afterWord?_eq_none_iff.1 hmove
          · exact afterWord?_eq_none_iff.1 hloop
          · exact afterWord?_eq_none_iff.1 hif
  · rintro (⟨rfl, hlacks⟩ | ⟨front, words, hawaits, rfl, hlacks⟩)
    · have hmove := afterWord?_eq_none_iff.2 (hlacks moveWord (.inl rfl))
      have hloop := afterWord?_eq_none_iff.2 (hlacks loopWord (.inr (.inl rfl)))
      have hif := afterWord?_eq_none_iff.2 (hlacks ifWord (.inr (.inr rfl)))
      rw [readHead, hmove, hloop, hif]
    · exact hawaits.readHead_eq hlacks

end Heads

section Runs

variable {blocks opened : List OpenBlock} {done made : List Stmt} {front : List Char}

/-- Behind a text that leads from one state to another the reader is in the other. -/
theorem Leads.readFrom_eq (h : Leads limit blocks done front opened made) (rest : List Char) :
    readFrom limit blocks done (front ++ rest) = readFrom limit opened made rest := by
  induction h with
  | refl => rfl
  | gap hgap h ih => rw [List.append_assoc, readFrom_gap hgap, ih]
  | move direction hgap h ih =>
      simp only [List.append_assoc, List.cons_append]
      rw [readFrom_move direction hgap, ih]
  | opening hopens hdepth h ih =>
      simp only [List.append_assoc, List.cons_append]
      rw [readFrom_open hopens hdepth, ih]
  | closing block h ih => rw [List.cons_append, readFrom_close, ih]

/-- The word of a statement begins neither with a blank nor with a closing brace. -/
theorem exists_cons_of_headWord {word : List Char} (hword : word ∈ headWords)
    (hbegins : word <+: text) :
    ∃ char more, text = char :: more ∧ Text.isBlank char = false ∧ char ≠ '}' := by
  obtain ⟨more, rfl⟩ := hbegins
  obtain rfl | rfl | rfl := hword
  · exact ⟨'m', _, rfl, rfl, by decide⟩
  · exact ⟨'l', _, rfl, rfl, by decide⟩
  · exact ⟨'i', _, rfl, rfl, by decide⟩

theorem exists_headWord_of_opens {header : Header} (hopens : Opens header front) :
    ∃ word ∈ headWords, word <+: front := by
  cases hopens with
  | loop hgap => exact ⟨loopWord, .inr (.inl rfl), List.prefix_append _ _⟩
  | cond direction tile hgap hne hafter =>
      exact ⟨ifWord, .inr (.inr rfl), List.prefix_append _ _⟩

theorem Awaits.exists_headWord {complaint : Complaint} {words : Set (List Char)}
    (h : Awaits limit depth front complaint words) : ∃ word ∈ headWords, word <+: front := by
  cases h with
  | way hword =>
      obtain rfl | rfl := hword
      · exact ⟨moveWord, .inl rfl, List.prefix_rfl⟩
      · exact ⟨ifWord, .inr (.inr rfl), List.prefix_rfl⟩
  | semicolon direction hgap => exact ⟨moveWord, .inl rfl, List.prefix_append _ _⟩
  | gap direction => exact ⟨ifWord, .inr (.inr rfl), List.prefix_append _ _⟩
  | tile direction hgap hne => exact ⟨ifWord, .inr (.inr rfl), List.prefix_append _ _⟩
  | brace hopens hdepth => exact exists_headWord_of_opens hopens
  | room hopens hdepth => exact exists_headWord_of_opens hopens

/-- All words for which the reader waits in a statement are signs, blanks or words of a
direction or a tile. -/
theorem Awaits.forall_words {complaint : Complaint} {words : Set (List Char)}
    (h : Awaits limit depth front complaint words) (property : List Char → Prop)
    (hsemicolon : property [';']) (hbrace : property ['{'])
    (hblank : ∀ char, Text.isBlank char = true → property [char])
    (hdirection : ∀ direction : Direction, property direction.word)
    (htile : ∀ tile : Tile, property tile.word) : ∀ word ∈ words, property word := by
  have hblanks : ∀ word ∈ blankWords, property word := by
    rintro _ ⟨char, hchar, rfl⟩
    exact hblank char hchar
  cases h with
  | way hword =>
      rintro _ ⟨direction, rfl⟩
      exact hdirection direction
  | semicolon direction hgap =>
      rintro word (rfl | hword)
      · exact hsemicolon
      · exact hblanks word hword
  | gap direction => exact hblanks
  | tile direction hgap hne =>
      rintro word (⟨tile, rfl⟩ | hword)
      · exact htile tile
      · exact hblanks word hword
  | brace hopens hdepth =>
      rintro word (rfl | hword)
      · exact hbrace
      · exact hblanks word hword
  | room hopens hdepth => exact hblanks

/-- At the head of a statement that it does not take the reader stops. -/
theorem readFrom_of_readHead {char : Char} (hblank : Text.isBlank char = false)
    (hbrace : char ≠ '}') (h : readHead limit blocks.length (char :: text) = .error stop) :
    readFrom limit blocks done (char :: text) = .error stop := by
  rw [readFrom_eq, Text.skipBlanks_cons hblank]
  simp only [h]

theorem Halts.readFrom_eq {complaint : Complaint}
    (h : Halts limit blocks.length front complaint rest) :
    readFrom limit blocks done (front ++ rest) = .error ⟨complaint, rest⟩ := by
  cases h with
  | within hawaits hlacks =>
      have hhead := hawaits.readHead_eq hlacks
      obtain ⟨word, hword, hbegins⟩ := hawaits.exists_headWord
      obtain ⟨char, more, rfl, hblank, hbrace⟩ := exists_cons_of_headWord hword hbegins
      exact readFrom_of_readHead hblank hbrace hhead
  | statement hlacks hbrace hne =>
      obtain ⟨hwords, hsharp⟩ := lacks_union.1 hlacks
      obtain ⟨char, more, rfl⟩ := List.exists_cons_of_ne_nil hne
      rw [lacks_blankWords_iff, sharp_cons_iff] at hsharp
      refine readFrom_of_readHead hsharp ?_ (readHead_eq_error_iff.2 (.inl ⟨rfl, hwords⟩))
      rintro rfl
      exact hbrace ⟨more, rfl⟩
  | unterminated hdepth =>
      obtain ⟨block, blocks, rfl⟩ := List.exists_cons_of_length_pos hdepth
      rw [List.nil_append, Reader.readFrom_eq]
      rfl
  | unmatched hdepth hbrace =>
      obtain ⟨more, rfl⟩ := hbrace
      rw [List.length_eq_zero_iff.1 hdepth, List.nil_append, Reader.readFrom_eq,
        List.singleton_append, Text.skipBlanks_cons rfl]
      rfl

/-- A beginning of the text leads the reader to a place at which it stops. -/
def Strands (limit : Nat) (blocks : List OpenBlock) (done : List Stmt) (text : List Char)
    (stop : Stop) : Prop :=
  ∃ front opened made back, text = front ++ (back ++ stop.rest) ∧
    Leads limit blocks done front opened made ∧
    Halts limit opened.length back stop.complaint stop.rest

theorem strands_of_halts (htext : text = front ++ stop.rest)
    (h : Halts limit blocks.length front stop.complaint stop.rest) :
    Strands limit blocks done text stop :=
  ⟨[], blocks, done, front, htext, .refl, h⟩

theorem Strands.of_skipBlanks (hskip : Text.skipBlanks text = rest)
    (h : Strands limit blocks done rest stop) : Strands limit blocks done text stop := by
  obtain ⟨gap, hgap, htext⟩ := Text.exists_blanks_skipBlanks text
  obtain ⟨front, opened, made, back, rfl, hleads, hhalts⟩ := h
  refine ⟨gap ++ front, opened, made, back, ?_, hleads.gap hgap, hhalts⟩
  rw [List.append_assoc, ← hskip, ← htext]

/-- The reader stops in a text exactly if a beginning of the text leads it to a place at which
it waits in vain. -/
theorem readFrom_eq_error_iff :
    readFrom limit blocks done text = .error stop ↔ Strands limit blocks done text stop := by
  constructor
  · intro h
    fun_induction readFrom limit blocks done text with
    | case1 => cases h
    | case2 done text hskip block blocks =>
        cases h
        refine Strands.of_skipBlanks hskip ?_
        exact strands_of_halts rfl (.unterminated (Nat.succ_pos blocks.length))
    | case3 done text rest hskip =>
        cases h
        refine Strands.of_skipBlanks hskip ?_
        exact strands_of_halts rfl (.unmatched rfl ⟨rest, rfl⟩)
    | case4 done text rest hskip block blocks ih =>
        rw [List.unattach_reverse, List.unattach_attach] at ih
        obtain ⟨front, opened, made, back, rfl, hleads, hhalts⟩ := ih h
        refine Strands.of_skipBlanks hskip ?_
        exact ⟨_, opened, made, back, rfl, hleads.closing block, hhalts⟩
    | case5 blocks done text char more hchar hskip stop hhead =>
        cases h
        refine Strands.of_skipBlanks hskip ?_
        obtain ⟨rfl, hwords⟩ | ⟨front, words, hawaits, htext, hlacks⟩ :=
          readHead_eq_error_iff.1 hhead
        · have hsharp : Sharp (char :: more) := hskip ▸ sharp_skipBlanks text
          have hbrace : ¬['}'] <+: char :: more := by
            rintro ⟨rest, hrest⟩
            exact hchar (List.cons.inj hrest).1.symm
          have hlacks := lacks_union.2 ⟨hwords, lacks_blankWords_iff.2 hsharp⟩
          exact strands_of_halts rfl (.statement hlacks hbrace (List.cons_ne_nil char more))
        · exact strands_of_halts htext (.within hawaits hlacks)
    | case6 blocks done text char more hchar hskip direction rest hhead ih =>
        obtain ⟨gap, hgap, htext⟩ := readHead_eq_move_iff.1 hhead
        obtain ⟨front, opened, made, back, rfl, hleads, hhalts⟩ := ih h
        refine Strands.of_skipBlanks (hskip.trans htext) ?_
        refine ⟨_, opened, made, back, ?_, hleads.move direction hgap, hhalts⟩
        simp only [List.append_assoc, List.cons_append]
    | case7 blocks done text char more hchar hskip header rest hhead ih =>
        obtain ⟨hdepth, before, hopens, htext⟩ := readHead_eq_block_iff.1 hhead
        obtain ⟨front, opened, made, back, rfl, hleads, hhalts⟩ := ih h
        refine Strands.of_skipBlanks (hskip.trans htext) ?_
        refine ⟨_, opened, made, back, ?_, hleads.opening hopens hdepth, hhalts⟩
        simp only [List.append_assoc, List.cons_append]
  · rintro ⟨front, opened, made, back, rfl, hleads, hhalts⟩
    rw [hleads.readFrom_eq, hhalts.readFrom_eq]

end Runs

/-- If this is a complaint, it is one about an end of the text. -/
def StopsIn {α : Type} (text : List Char) (result : Except Stop α) : Prop :=
  ∀ stop, result = .error stop → stop.rest <:+ text

/-- However far it has come, the reader stops in the text that is left to it. -/
theorem readFrom_stopsIn (limit : Nat) (blocks : List OpenBlock) (done : List Stmt)
    (text : List Char) : StopsIn text (readFrom limit blocks done text) := by
  intro stop hstop
  obtain ⟨front, opened, made, back, rfl, -, -⟩ := readFrom_eq_error_iff.1 hstop
  exact ⟨front ++ back, List.append_assoc ..⟩

end

end Reader

section

variable {source : List Char} {rejection : Rejection}

theorem parse_eq_error_iff :
    parse source = .error rejection ↔
      ∃ stop, Reader.readFrom maxNesting [] [] source = .error stop ∧
        rejection = ⟨stop.complaint, ⟨source, source.length - stop.rest.length⟩⟩ := by
  unfold parse
  cases Reader.readFrom maxNesting [] [] source with
  | ok stmts => simp
  | error stop => simp [eq_comm]

/-- A text is rejected where the reader stops in it, for the reason for which it stops. -/
theorem parse_eq_error_iff_halts :
    parse source = .error rejection ↔
      ∃ front opened made back rest, source = front ++ (back ++ rest) ∧
        Reader.Leads maxNesting [] [] front opened made ∧
        Reader.Halts maxNesting opened.length back rejection.complaint rest ∧
        rejection.mark = ⟨source, (front ++ back).length⟩ := by
  rw [parse_eq_error_iff]
  constructor
  · rintro ⟨⟨complaint, rest⟩, hstop, rfl⟩
    obtain ⟨front, opened, made, back, rfl, hleads, hhalts⟩ := Reader.readFrom_eq_error_iff.1 hstop
    refine ⟨front, opened, made, back, rest, rfl, hleads, hhalts, ?_⟩
    rw [← List.append_assoc, List.length_append, Nat.add_sub_cancel]
  · rintro ⟨front, opened, made, back, rest, rfl, hleads, hhalts, hmark⟩
    refine ⟨⟨rejection.complaint, rest⟩, ?_, ?_⟩
    · exact Reader.readFrom_eq_error_iff.2 ⟨front, opened, made, back, rfl, hleads, hhalts⟩
    · rw [← List.append_assoc] at hmark ⊢
      rw [List.length_append, Nat.add_sub_cancel, ← hmark]

/-- Where the reader stops the text is rejected. -/
theorem parse_of_halts {front back rest : List Char} {opened : List OpenBlock}
    {made : List Stmt} {complaint : Complaint}
    (hleads : Reader.Leads maxNesting [] [] front opened made)
    (hhalts : Reader.Halts maxNesting opened.length back complaint rest) :
    parse (front ++ (back ++ rest)) =
      .error ⟨complaint, ⟨front ++ (back ++ rest), (front ++ back).length⟩⟩ :=
  parse_eq_error_iff_halts.2 ⟨front, opened, made, back, rest, rfl, hleads, hhalts, rfl⟩

end

end RiverPuzzle
