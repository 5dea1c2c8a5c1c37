import RiverPuzzle.Proofs.Completion
import RiverPuzzle.Proofs.Placement

/-!
# Headway of the reader

The reader goes on step by step, one for each head of a statement and one for each closing brace,
and every step takes some text.  What it has read so far pays for what it has made of it: six
characters for each statement, five of which a block pays when it is opened and the last one when
it is closed.  The main statement follows the reader through all states that it can come to; it
ends in every text, with no more than sixty-four blocks open on the way, and a program has at most
one instruction for six characters of its text.
-/

namespace RiverPuzzle

namespace Reader

/-- Where the reader is: the blocks that are open, the innermost first; the statements of the
innermost one so far, newest first; and the text that is not yet read. -/
structure State where
  blocks : List OpenBlock
  done : List Stmt
  text : List Char

namespace State

/-- The reader in front of a text. -/
def start (source : List Char) : State :=
  ⟨[], [], source⟩

/-- What the reader makes of the text from a state on. -/
def outcome (limit : Nat) (state : State) : Except Stop (List Stmt) :=
  readFrom limit state.blocks state.done state.text

/-- One step of the reader, which has the whole tree then or goes on in another state. -/
def step (limit : Nat) (state : State) : Except Stop (List Stmt ⊕ State) :=
  match Text.skipBlanks state.text with
  | [] =>
      match state.blocks with
      | [] => .ok (.inl state.done.reverse)
      | _ :: _ => .error ⟨.unterminated, []⟩
  | '}' :: rest =>
      match state.blocks with
      | [] => .error ⟨.unmatched, '}' :: rest⟩
      | block :: blocks =>
          .ok (.inr ⟨blocks, block.header.close state.done.reverse :: block.before, rest⟩)
  | char :: rest =>
      match readHead limit state.blocks.length (char :: rest) with
      | .error stop => .error stop
      | .ok (.move direction, rest) =>
          .ok (.inr ⟨state.blocks, .move direction :: state.done, rest⟩)
      | .ok (.block header, rest) => .ok (.inr ⟨⟨header, state.done⟩ :: state.blocks, [], rest⟩)

/-- Reading is nothing but taking steps. -/
theorem outcome_eq (limit : Nat) (state : State) :
    state.outcome limit =
      match state.step limit with
      | .error stop => .error stop
      | .ok (.inl tree) => .ok tree
      | .ok (.inr next) => next.outcome limit := by
  obtain ⟨blocks, done, text⟩ := state
  rw [outcome, readFrom_eq, step]
  generalize Text.skipBlanks text = rest
  cases rest with
  | nil => cases blocks <;> rfl
  | cons char rest =>
      by_cases hbrace : char = '}'
      · subst hbrace
        cases blocks <;> rfl
      · simp only
        cases readHead limit blocks.length (char :: rest) with
        | error stop => rfl
        | ok found =>
            obtain ⟨head, rest⟩ := found
            cases head <;> rfl

end State

/-- In some steps the reader comes from one state to another. -/
inductive Reaches (limit : Nat) : Nat → State → State → Prop
  | refl (state : State) : Reaches limit 0 state state
  | step {state next last : State} {count : Nat} (hstep : state.step limit = .ok (.inr next))
      (hmore : Reaches limit count next last) : Reaches limit (count + 1) state last

/-- What the blocks and statements of a state have cost. -/
def cost : List OpenBlock → List Stmt → Nat
  | [], done => 6 * Stmt.nodesAll done
  | block :: blocks, done => cost blocks block.before + 5 + 6 * Stmt.nodesAll done

variable {limit count : Nat} {state next last : State} {front more : List Char}
  {blocks opened later : List OpenBlock} {done made late : List Stmt}

theorem cost_cons (blocks : List OpenBlock) (stmt : Stmt) (done : List Stmt) :
    cost blocks (stmt :: done) = cost blocks done + 6 * stmt.nodes := by
  cases blocks with
  | nil =>
      rw [cost, cost, Stmt.nodesAll]
      omega
  | cons block blocks =>
      rw [cost, cost, Stmt.nodesAll]
      omega

theorem Opens.length_ge {header : Header} (h : Opens header front) : 4 ≤ front.length := by
  cases h with
  | loop hgap =>
      rw [List.length_append]
      exact Nat.le_add_right 4 _
  | cond direction tile hgap hne hafter =>
      have := List.length_pos_iff.2 hne
      simp only [List.length_append, ifWord, List.length_cons, List.length_nil]
      omega

theorem Leads.trans (h : Leads limit blocks done front opened made)
    (hmore : Leads limit opened made more later late) :
    Leads limit blocks done (front ++ more) later late := by
  induction h with
  | refl => exact hmore
  | gap hgap h ih =>
      rw [List.append_assoc]
      exact (ih hmore).gap hgap
  | move direction hgap h ih =>
      simp only [List.append_assoc, List.cons_append]
      exact (ih hmore).move direction hgap
  | opening hopens hdepth h ih =>
      rw [List.append_assoc, List.cons_append]
      exact (ih hmore).opening hopens hdepth
  | closing block h ih => exact (ih hmore).closing block

/-- The text that is read pays for all that is made of it. -/
theorem Leads.cost_le (h : Leads limit blocks done front opened made) :
    cost opened made ≤ cost blocks done + front.length := by
  induction h with
  | refl => exact Nat.le_refl _
  | gap hgap h ih =>
      rw [List.length_append]
      omega
  | move direction hgap h ih =>
      rw [cost_cons, Stmt.nodes] at ih
      simp only [moveWord, List.length_append, List.length_cons, List.length_nil]
      omega
  | opening hopens hdepth h ih =>
      have := Opens.length_ge hopens
      simp only [cost, Stmt.nodesAll] at ih
      rw [List.length_append, List.length_cons]
      omega
  | closing block h ih =>
      rw [cost_cons, Stmt.nodes_close, Stmt.nodesAll_reverse] at ih
      rw [cost, List.length_cons]
      omega

/-- A step takes text, and leads as the text does that it takes. -/
theorem leads_of_step (h : state.step limit = .ok (.inr next)) :
    ∃ front, front ≠ [] ∧ Text.skipBlanks state.text = front ++ next.text ∧
      Leads limit state.blocks state.done front next.blocks next.done := by
  unfold State.step at h
  split at h
  · split at h <;> cases h
  · rename_i rest hskip
    split at h
    · cases h
    · rename_i block blocks hblocks
      cases h
      refine ⟨['}'], List.cons_ne_nil _ _, hskip, ?_⟩
      rw [hblocks]
      exact .closing block .refl
  · rename_i char rest hchar hskip
    split at h
    · cases h
    · rename_i direction after hhead
      cases h
      obtain ⟨gap, hgap, htext⟩ := readHead_eq_move_iff.1 hhead
      refine ⟨moveWord ++ (direction.word ++ (gap ++ [';'])), List.cons_ne_nil _ _, ?_,
        .move direction hgap .refl⟩
      rw [hskip, htext]
      simp only [List.append_assoc, List.cons_append, List.nil_append]
    · rename_i header after hhead
      cases h
      obtain ⟨hdepth, front, hopens, htext⟩ := readHead_eq_block_iff.1 hhead
      refine ⟨front ++ ['{'], by simp, ?_, .opening hopens hdepth .refl⟩
      rw [hskip, htext]
      simp only [List.append_assoc, List.cons_append, List.nil_append]

/-- Where a step ends the reading with a tree, no block is open and the tree is there. -/
theorem step_eq_tree {tree : List Stmt} (h : state.step limit = .ok (.inl tree)) :
    state.blocks = [] ∧ state.done.reverse = tree := by
  unfold State.step at h
  split at h
  · split at h
    · rename_i hblocks
      cases h
      exact ⟨hblocks, rfl⟩
    · cases h
  · split at h <;> cases h
  · split at h <;> cases h

/-- The blanks in front of it make no difference to a step. -/
theorem step_skipBlanks (limit : Nat) (state : State) :
    State.step limit ⟨state.blocks, state.done, Text.skipBlanks state.text⟩ =
      state.step limit := by
  have hskip : Text.skipBlanks (Text.skipBlanks state.text) = Text.skipBlanks state.text :=
    sharp_skipBlanks state.text
  rw [State.step, State.step, hskip]

namespace Reaches

theorem exists_front (h : Reaches limit count state last) :
    ∃ front, count ≤ front.length ∧ state.text = front ++ last.text ∧
      Leads limit state.blocks state.done front last.blocks last.done := by
  induction h with
  | refl => exact ⟨[], Nat.le_refl 0, rfl, .refl⟩
  | @step state next last count hstep hmore ih =>
      obtain ⟨gap, hgap, htext⟩ := Text.exists_blanks_skipBlanks state.text
      obtain ⟨front, hne, hskip, hleads⟩ := leads_of_step hstep
      obtain ⟨more, hcount, hnext, hlater⟩ := ih
      have hpos := List.length_pos_iff.2 hne
      refine ⟨gap ++ (front ++ more), ?_, ?_, (hleads.trans hlater).gap hgap⟩
      · simp only [List.length_append]
        omega
      · rw [htext, hskip, hnext, List.append_assoc, List.append_assoc]

theorem outcome_eq (h : Reaches limit count state last) :
    state.outcome limit = last.outcome limit := by
  induction h with
  | refl => rfl
  | step hstep hmore ih =>
      rw [State.outcome_eq, hstep]
      exact ih

/-- Between two states with the same open blocks, the second with a statement more, the reader
has read the text of that statement, which is not short. -/
theorem length_statement {stmt : Stmt} (h : Reaches limit count state last)
    (hblocks : last.blocks = state.blocks) (hdone : last.done = stmt :: state.done) :
    last.text.length + 6 * stmt.nodes ≤ (Text.skipBlanks state.text).length := by
  cases h with
  | refl => exact absurd hdone.symm (List.cons_ne_self stmt state.done)
  | step hstep hmore =>
      rw [← step_skipBlanks] at hstep
      obtain ⟨front, -, htext, hleads⟩ := (Reaches.step hstep hmore).exists_front
      have hcost := hleads.cost_le
      rw [hblocks, hdone, cost_cons] at hcost
      have hlength := congrArg List.length htext
      rw [List.length_append] at hlength
      simp only at hlength hcost
      omega

end Reaches

/-- A step goes on in the text that is left, and a complaint is about that text. -/
theorem step_forward (limit : Nat) (state : State) :
    (∀ next, state.step limit = .ok (.inr next) →
      next.text <:+ state.text ∧ next.text.length < state.text.length) ∧
    ∀ stop, state.step limit = .error stop → stop.rest <:+ state.text := by
  constructor
  · intro next hstep
    obtain ⟨front, hcount, htext, -⟩ := (Reaches.step hstep (.refl next)).exists_front
    refine ⟨⟨front, htext.symm⟩, ?_⟩
    rw [htext, List.length_append]
    omega
  · intro stop hstop
    apply readFrom_stopsIn limit state.blocks state.done state.text stop
    change state.outcome limit = .error stop
    rw [State.outcome_eq, hstop]

/-- From every state the reader comes to an end, which is what it makes of the text. -/
theorem exists_end (limit : Nat) (state : State) :
    ∃ count last, Reaches limit count state last ∧
      ((∃ tree, last.step limit = .ok (.inl tree) ∧ state.outcome limit = .ok tree) ∨
        ∃ stop, last.step limit = .error stop ∧ state.outcome limit = .error stop) := by
  induction hlength : state.text.length using Nat.strong_induction_on generalizing state with
  | h length ih =>
      cases hstep : state.step limit with
      | error stop =>
          have houtcome := state.outcome_eq limit
          rw [hstep] at houtcome
          exact ⟨0, state, .refl state, .inr ⟨stop, hstep, houtcome⟩⟩
      | ok found =>
          have houtcome := state.outcome_eq limit
          rw [hstep] at houtcome
          cases found with
          | inl tree => exact ⟨0, state, .refl state, .inl ⟨tree, hstep, houtcome⟩⟩
          | inr next =>
              have hless : next.text.length < state.text.length :=
                ((step_forward limit state).1 next hstep).2
              obtain ⟨count, last, hreaches, hend⟩ := ih _ (hlength ▸ hless) next rfl
              rw [← show state.outcome limit = next.outcome limit from houtcome] at hend
              exact ⟨count + 1, last, .step hstep hreaches, hend⟩

end Reader

/-- The reader ends in every text, soon enough, and says what is said of the text. -/
theorem exists_end_of_text (source : List Char) :
    ∃ (count : Nat) (last : Reader.State), count ≤ source.length ∧
      Reader.Reaches maxNesting count (.start source) last ∧
      ((∃ tree, last.step maxNesting = .ok (.inl tree) ∧ parse source = .ok tree) ∨
        ∃ stop, last.step maxNesting = .error stop ∧
          parse source =
            .error ⟨stop.complaint, ⟨source, source.length - stop.rest.length⟩⟩) := by
  obtain ⟨count, last, hreaches, hend⟩ := Reader.exists_end maxNesting (.start source)
  obtain ⟨front, hcount, htext, -⟩ := hreaches.exists_front
  have hle : count ≤ source.length := by
    have hlength := congrArg List.length htext
    rw [List.length_append] at hlength
    change source.length = _ at hlength
    omega
  refine ⟨count, last, hle, hreaches, ?_⟩
  obtain ⟨tree, hstep, htree⟩ | ⟨stop, hstep, hstop⟩ := hend
  · exact .inl ⟨tree, hstep, parse_eq_ok_iff.2 htree⟩
  · exact .inr ⟨stop, hstep, parse_eq_error_iff.2 ⟨stop, hstop, rfl⟩⟩

/-- A text that is a program pays six characters for each of its statements. -/
theorem nodesAll_le_of_parse {source : List Char} {tree : List Stmt}
    (h : parse source = .ok tree) : 6 * Stmt.nodesAll tree ≤ source.length := by
  obtain ⟨count, last, -, hreaches, ⟨other, hstep, hother⟩ | ⟨stop, -, hstop⟩⟩ :=
    exists_end_of_text source
  · obtain rfl : other = tree := Except.ok.inj (hother.symm.trans h)
    obtain ⟨hblocks, rfl⟩ := Reader.step_eq_tree hstep
    obtain ⟨front, -, htext, hleads⟩ := hreaches.exists_front
    have hlength : front.length + last.text.length = source.length := by
      rw [← List.length_append, ← htext]
      rfl
    have hcost : Reader.cost last.blocks last.done ≤ 0 + front.length := hleads.cost_le
    rw [hblocks, Reader.cost] at hcost
    rw [Stmt.nodesAll_reverse]
    omega
  · rw [h] at hstop
    cases hstop

/-- In no state that it can come to has the reader gone past the end of the text, nor more than
sixty-four blocks open; it never goes back, and it reads six characters or more for a statement.
It comes to an end in every text, in no more steps than the text has characters, and a program has
at most one instruction for six characters of its text. -/
theorem reader_makes_headway (source : List Char) :
    (∀ (count : Nat) (state : Reader.State),
      Reader.Reaches maxNesting count (.start source) state →
      state.text <:+ source ∧ state.blocks.length ≤ 64 ∧
      (∀ next, state.step maxNesting = .ok (.inr next) →
        next.text <:+ state.text ∧ next.text.length < state.text.length) ∧
      (∀ stop, state.step maxNesting = .error stop → stop.rest <:+ state.text) ∧
      ∀ (more : Nat) (last : Reader.State) (stmt : Stmt),
        Reader.Reaches maxNesting more state last → last.blocks = state.blocks →
        last.done = stmt :: state.done →
        last.text.length + 6 ≤ (Text.skipBlanks state.text).length) ∧
    (∃ (count : Nat) (last : Reader.State), count ≤ source.length ∧
      Reader.Reaches maxNesting count (.start source) last ∧
      ((∃ tree, last.step maxNesting = .ok (.inl tree) ∧ parse source = .ok tree) ∨
        ∃ stop, last.step maxNesting = .error stop ∧
          parse source =
            .error ⟨stop.complaint, ⟨source, source.length - stop.rest.length⟩⟩)) ∧
    ∀ program, Program.ofText source = .ok program → 6 * program.size ≤ source.length := by
  refine ⟨?_, exists_end_of_text source, ?_⟩
  · intro count state hreaches
    obtain ⟨front, -, htext, hleads⟩ := hreaches.exists_front
    obtain ⟨hnext, hstop⟩ := Reader.step_forward maxNesting state
    refine ⟨⟨front, htext.symm⟩, hleads.length_le (Nat.zero_le _), hnext, hstop, ?_⟩
    intro more last stmt hmore hblocks hdone
    have hlength := hmore.length_statement hblocks hdone
    have hpos := stmt.nodes_pos
    omega
  · intro program hprogram
    obtain ⟨tree, htree, rfl⟩ := Program.ofText_eq_ok_iff.1 hprogram
    rw [Program.size_ofStatements, Stmt.length_codeAll]
    exact nodesAll_le_of_parse htree

-- No better bound holds: a loop around nothing is one instruction.
example : ∃ program, Program.ofText "loop\x7b\x7d".toList = .ok program ∧ program.size = 1 ∧
    "loop\x7b\x7d".toList.length = 6 := by
  refine ⟨#[.goto 0], ?_, rfl, rfl⟩
  decide +kernel

end RiverPuzzle
