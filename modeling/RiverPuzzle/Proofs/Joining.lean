import RiverPuzzle.Proofs.Relocation
import RiverPuzzle.Proofs.Stopping

/-!
# Texts in a row

Behind a text that is accepted the reader goes on as it would at the beginning of the next
one: the statements read so far lie below all open blocks, where nothing looks at them.  The
main statement says what compiling two texts in a row comes to, whether the second one is
accepted or rejected.
-/

namespace RiverPuzzle

/-- The second state of the reader is the first one with some statements, newest first, at the
bottom of the stack. -/
inductive Atop (earlier : List Stmt) :
    List OpenBlock → List Stmt → List OpenBlock → List Stmt → Prop
  | ground (done : List Stmt) : Atop earlier [] done [] (done ++ earlier)
  | block {blocks raised : List OpenBlock} {before lifted : List Stmt} (header : Header)
      (done : List Stmt) (h : Atop earlier blocks before raised lifted) :
      Atop earlier (⟨header, before⟩ :: blocks) done (⟨header, lifted⟩ :: raised) done

namespace Atop

variable {earlier done lifted : List Stmt} {blocks raised : List OpenBlock}

theorem length_eq (h : Atop earlier blocks done raised lifted) :
    raised.length = blocks.length := by
  induction h with
  | ground done => rfl
  | block header done h ih => simp [ih]

theorem cons (h : Atop earlier blocks done raised lifted) (stmt : Stmt) :
    Atop earlier blocks (stmt :: done) raised (stmt :: lifted) := by
  cases h with
  | ground done => exact ground (stmt :: done)
  | block header done h => exact block header (stmt :: done) h

end Atop

namespace Reader

/-- Statements at the bottom of the stack come first in the tree, and make no difference to
where the reader stops and why. -/
theorem readFrom_atop {earlier done lifted : List Stmt} {blocks raised : List OpenBlock}
    (limit : Nat) (text : List Char) (h : Atop earlier blocks done raised lifted) :
    readFrom limit raised lifted text =
      (readFrom limit blocks done text).map (earlier.reverse ++ ·) := by
  fun_induction readFrom limit blocks done text generalizing raised lifted with
  | case1 done text hskip =>
      obtain ⟨⟩ := h
      rw [readFrom_eq, hskip]
      simp [Except.map]
  | case2 done text hskip block blocks =>
      obtain _ | ⟨header, done, h⟩ := h
      rw [readFrom_eq, hskip]
      rfl
  | case3 done text rest hskip =>
      obtain ⟨⟩ := h
      rw [readFrom_eq, hskip]
      rfl
  | case4 done text rest hskip block blocks ih =>
      rw [List.unattach_reverse, List.unattach_attach] at ih
      obtain _ | ⟨header, done, h⟩ := h
      rw [readFrom_eq, hskip]
      exact ih (h.cons _)
  | case5 blocks done text char more hchar hskip stop hhead =>
      rw [readFrom_eq, hskip]
      simp [h.length_eq, hhead, Except.map]
  | case6 blocks done text char more hchar hskip direction rest hhead ih =>
      rw [readFrom_eq, hskip]
      simpa [h.length_eq, hhead] using ih (h.cons (.move direction))
  | case7 blocks done text char more hchar hskip header rest hhead ih =>
      rw [readFrom_eq, hskip]
      simpa [h.length_eq, hhead] using ih (.block header [] h)

/-- The reader reads a text behind an accepted one as it reads it alone. -/
theorem readFrom_append {limit : Nat} {front : List Char} {stmts : List Stmt}
    (hfront : readFrom limit [] [] front = .ok stmts) (back : List Char) :
    readFrom limit [] [] (front ++ back) = (readFrom limit [] [] back).map (stmts ++ ·) := by
  obtain ⟨hderives, hlimit⟩ := readFrom_eq_ok_iff.1 hfront
  have hread := reads_of_derives limit hderives [] [] back hlimit
  have hatop : Atop stmts.reverse [] [] [] (stmts.reverse ++ []) := by
    rw [List.append_nil]
    exact .ground []
  rw [hread, readFrom_atop limit back hatop, List.reverse_reverse]

end Reader

section

variable {front back : List Char} {stmts more : List Stmt}

theorem parse_append_of_ok (hfront : parse front = .ok stmts) (hback : parse back = .ok more) :
    parse (front ++ back) = .ok (stmts ++ more) := by
  rw [parse_eq_ok_iff] at hfront hback ⊢
  rw [Reader.readFrom_append hfront, hback]
  rfl

theorem parse_append_of_error {rejection : Rejection} (hfront : parse front = .ok stmts)
    (hback : parse back = .error rejection) :
    parse (front ++ back) = .error
      ⟨rejection.complaint, ⟨front ++ back, front.length + rejection.mark.position⟩⟩ := by
  obtain ⟨stop, hstop, rfl⟩ := parse_eq_error_iff.1 hback
  have hrest := (Reader.readFrom_stopsIn maxNesting [] [] back stop hstop).length_le
  refine parse_eq_error_iff.2 ⟨stop, ?_, ?_⟩
  · rw [Reader.readFrom_append (parse_eq_ok_iff.1 hfront), hstop]
    rfl
  · rw [List.length_append, Nat.add_sub_assoc hrest]

namespace Program

/-- The program of two texts in a row. -/
theorem ofText_append {first second : Program} (hfront : ofText front = .ok first)
    (hback : ofText back = .ok second) :
    ofText (front ++ back) = .ok (first ++ second.map (Instr.shift first.size)) := by
  obtain ⟨stmts, hstmts, rfl⟩ := ofText_eq_ok_iff.1 hfront
  obtain ⟨more, hmore, rfl⟩ := ofText_eq_ok_iff.1 hback
  exact ofText_eq_ok_iff.2
    ⟨stmts ++ more, parse_append_of_ok hstmts hmore, ofStatements_append stmts more⟩

end Program

/-- Behind a text that is accepted, a second one that is accepted adds its statements, and its
instructions with their jumps moved by the number of those before them.  A second one that is
rejected is rejected for the same reason at the same place in it. -/
theorem joined_texts (front back : List Char) (stmts : List Stmt)
    (hfront : parse front = .ok stmts) :
    (∀ more, parse back = .ok more →
      parse (front ++ back) = .ok (stmts ++ more) ∧
      ∃ first second, Program.ofText front = .ok first ∧ Program.ofText back = .ok second ∧
        Program.ofText (front ++ back) =
          .ok (first ++ second.map (Instr.shift first.size))) ∧
    ∀ rejection, parse back = .error rejection →
      parse (front ++ back) = .error
        ⟨rejection.complaint, ⟨front ++ back, front.length + rejection.mark.position⟩⟩ := by
  refine ⟨fun more hback => ⟨parse_append_of_ok hfront hback, ?_⟩, fun rejection hback =>
    parse_append_of_error hfront hback⟩
  have hfirst := Program.ofText_eq_ok_iff.2 ⟨stmts, hfront, rfl⟩
  have hsecond := Program.ofText_eq_ok_iff.2 ⟨more, hback, rfl⟩
  exact ⟨_, _, hfirst, hsecond, Program.ofText_append hfirst hsecond⟩

/-- Behind a loop of two instructions a second loop jumps to its own first one, and a move
without its sign is complained about where the sign should be. -/
theorem joined_texts_loop :
    ∃ stmts more, parse "loop\x7bmove up;\x7d".toList = .ok stmts ∧
      parse "loop\x7bif up rock\x7b\x7d\x7d".toList = .ok more ∧
      parse "move up".toList = .error ⟨.sign ';', ⟨"move up".toList, 7⟩⟩ ∧
      Program.ofText ("loop\x7bmove up;\x7d".toList ++ "loop\x7bif up rock\x7b\x7d\x7d".toList) =
        .ok #[.move .up, .goto 0, .branch ⟨.up, .rock⟩ 3, .goto 2] ∧
      parse ("loop\x7bmove up;\x7d".toList ++ "move up".toList) =
        .error ⟨.sign ';', ⟨"loop\x7bmove up;\x7d".toList ++ "move up".toList, 21⟩⟩ := by
  have hfirst : Program.ofText "loop\x7bmove up;\x7d".toList = .ok #[.move .up, .goto 0] := by
    decide +kernel
  have hsecond : Program.ofText "loop\x7bif up rock\x7b\x7d\x7d".toList =
      .ok #[.branch ⟨.up, .rock⟩ 1, .goto 0] := by decide +kernel
  have hrejected : Program.ofText "move up".toList =
      .error ⟨.sign ';', ⟨"move up".toList, 7⟩⟩ := by decide +kernel
  obtain ⟨stmts, hstmts, -⟩ := Program.ofText_eq_ok_iff.1 hfirst
  obtain ⟨more, hmore, -⟩ := Program.ofText_eq_ok_iff.1 hsecond
  have hback := Program.ofText_eq_error_iff.1 hrejected
  obtain ⟨-, first, second, hone, hother, hboth⟩ :=
    (joined_texts _ "loop\x7bif up rock\x7b\x7d\x7d".toList stmts hstmts).1 more hmore
  cases hfirst.symm.trans hone
  cases hsecond.symm.trans hother
  exact ⟨stmts, more, hstmts, hmore, hback, hboth.trans (by decide +kernel),
    (joined_texts _ "move up".toList stmts hstmts).2 _ hback⟩

end

end RiverPuzzle
