import RiverPuzzle.Proofs.Placement

/-!
# Nested jumps

A jump spans the addresses between itself and its target.  In the instructions of
statements a jump back spans the body of its loop, and a branch the block that it
guards, so the spans nest like the blocks of the text.  The main statement says so for
every list of statements at every address; it also says that every program of a text
can be loaded.
-/

namespace RiverPuzzle

/-- The addresses from the first to the last. -/
structure Span where
  first : Int
  last : Int
deriving DecidableEq, Repr

namespace Span

/-- No address lies in both. -/
def Apart (one other : Span) : Prop :=
  one.last < other.first ∨ other.last < one.first

/-- Every address of the first lies in the second. -/
def Inside (inner outer : Span) : Prop :=
  outer.first ≤ inner.first ∧ inner.last ≤ outer.last

/-- The two are apart, or one lies inside the other. -/
def Nests (one other : Span) : Prop :=
  one.Apart other ∨ one.Inside other ∨ other.Inside one

end Span

/-- What an instruction at an address spans: a jump back all from its target to itself,
a branch all from itself to the last address that it skips. -/
def Instr.span? (place : Int) : Instr → Option Span
  | .goto address => some ⟨address, place⟩
  | .branch _ otherwise => some ⟨place, otherwise - 1⟩
  | _ => none

namespace Stmt

/-- Some instruction has the span, when the first lies at `start`. -/
def HasSpan (start : Int) (code : List Instr) (span : Span) : Prop :=
  ∃ (place : Nat) (instr : Instr), code[place]? = some instr ∧
    instr.span? (start + place) = some span

/-- The spans lie within the instructions, and any two of them nest. -/
structure Nested (start : Int) (code : List Instr) : Prop where
  within : ∀ span, HasSpan start code span →
    start ≤ span.first ∧ span.first ≤ span.last ∧ span.last < start + code.length
  nests : ∀ one other, HasSpan start code one → HasSpan start code other → one.Nests other

variable {start : Int} {code more : List Instr} {span : Span}

theorem not_hasSpan_nil : ¬HasSpan start [] span := by
  rintro ⟨place, instr, hinstr, -⟩
  simp at hinstr

theorem hasSpan_singleton {instr : Instr} :
    HasSpan start [instr] span ↔ instr.span? start = some span := by
  constructor
  · rintro ⟨place, found, hfound, hspan⟩
    rw [List.getElem?_singleton] at hfound
    split at hfound
    · rename_i hplace
      cases hfound
      simpa [hplace] using hspan
    · cases hfound
  · intro hspan
    exact ⟨0, instr, rfl, by simpa using hspan⟩

theorem hasSpan_append :
    HasSpan start (code ++ more) span ↔
      HasSpan start code span ∨ HasSpan (start + code.length) more span := by
  constructor
  · rintro ⟨place, instr, hinstr, hspan⟩
    by_cases hplace : place < code.length
    · rw [List.getElem?_append_left hplace] at hinstr
      exact .inl ⟨place, instr, hinstr, hspan⟩
    · rw [List.getElem?_append_right (Nat.le_of_not_lt hplace)] at hinstr
      refine .inr ⟨place - code.length, instr, hinstr, ?_⟩
      rw [← hspan]
      congr 1
      omega
  · rintro (⟨place, instr, hinstr, hspan⟩ | ⟨place, instr, hinstr, hspan⟩)
    · refine ⟨place, instr, ?_, hspan⟩
      rw [List.getElem?_append_left (List.getElem?_eq_some_iff.1 hinstr).1]
      exact hinstr
    · refine ⟨code.length + place, instr, ?_, ?_⟩
      · rw [List.getElem?_append_right (Nat.le_add_right _ _), Nat.add_sub_cancel_left]
        exact hinstr
      · rw [← hspan]
        congr 1
        omega

theorem nested_of_spanless (hspans : ∀ span, ¬HasSpan start code span) : Nested start code where
  within span hspan := absurd hspan (hspans span)
  nests one _ hone _ := absurd hone (hspans one)

/-- Of two pieces in a row each keeps its spans to itself. -/
theorem Nested.append (hcode : Nested start code) (hmore : Nested (start + code.length) more) :
    Nested start (code ++ more) where
  within := by
    intro span hspan
    rw [List.length_append]
    rcases hasSpan_append.1 hspan with hspan | hspan
    · have := hcode.within span hspan
      omega
    · have := hmore.within span hspan
      omega
  nests := by
    intro one other hone hother
    rcases hasSpan_append.1 hone with hone | hone <;>
      rcases hasSpan_append.1 hother with hother | hother
    · exact hcode.nests one other hone hother
    · have := hcode.within one hone
      have := hmore.within other hother
      exact .inl (.inl (by omega))
    · have := hmore.within one hone
      have := hcode.within other hother
      exact .inl (.inr (by omega))
    · exact hmore.nests one other hone hother

/-- A jump over everything may be added to a body. -/
theorem Nested.cover {inner : Int} {body : List Instr} (hbody : Nested inner body)
    (hfirst : start ≤ inner) (hlast : inner + body.length ≤ start + code.length)
    (hpos : 0 < code.length)
    (hspans : ∀ span, HasSpan start code span →
      span = ⟨start, start + code.length - 1⟩ ∨ HasSpan inner body span) :
    Nested start code where
  within := by
    intro span hspan
    rcases hspans span hspan with rfl | hspan
    · simp only
      omega
    · have := hbody.within span hspan
      omega
  nests := by
    intro one other hone hother
    rcases hspans one hone with rfl | hone <;> rcases hspans other hother with rfl | hother
    · exact .inr (.inl ⟨Int.le_refl _, Int.le_refl _⟩)
    · have := hbody.within other hother
      exact .inr (.inr ⟨by simp only; omega, by simp only; omega⟩)
    · have := hbody.within one hone
      exact .inr (.inl ⟨by simp only; omega, by simp only; omega⟩)
    · exact hbody.nests one other hone hother

mutual

theorem code_nested (start : Int) : (stmt : Stmt) → Nested start (stmt.code start)
  | .move direction => by
      rw [code_move]
      apply nested_of_spanless
      intro span hspan
      cases hasSpan_singleton.1 hspan
  | .loop body => by
      rw [code_loop]
      refine (codeAll_nested start body).cover (Int.le_refl start) ?_ ?_ ?_
      · rw [List.length_append, List.length_singleton]
        omega
      · simp
      · intro span hspan
        rw [hasSpan_append, hasSpan_singleton] at hspan
        rcases hspan with hspan | hspan
        · exact .inr hspan
        · cases hspan
          simp
          omega
  | .cond probe body => by
      rw [code_cond]
      refine (codeAll_nested (start + 1) body).cover ?_ ?_ ?_ ?_
      · omega
      · rw [List.length_cons]
        omega
      · simp
      · intro span hspan
        rw [← List.singleton_append, hasSpan_append, hasSpan_singleton] at hspan
        rcases hspan with hspan | hspan
        · cases hspan
          simp
          omega
        · exact .inr hspan

theorem codeAll_nested (start : Int) : (stmts : List Stmt) → Nested start (codeAll start stmts)
  | [] => by
      rw [codeAll_nil]
      exact nested_of_spanless fun _ => not_hasSpan_nil
  | stmt :: rest => by
      rw [codeAll_cons]
      exact (code_nested start stmt).append (codeAll_nested _ rest)

end

/-- The instructions of statements are as many as addresses are given out.  A jump back
leads to an address between the first and its own, a branch to one behind its own and at
most just behind the last, and any two jumps nest.  A program of a text, unless it is
empty, can be put into the river of every level. -/
theorem jumps_nest (start : Int) (stmts : List Stmt) :
    (∃ code, lowerAll start stmts = (start + code.length, code) ∧
      (∀ (place : Nat) (address : Int), code[place]? = some (.goto address) →
        start ≤ address ∧ address ≤ start + place) ∧
      (∀ (place : Nat) (probe : Probe) (otherwise : Int),
        code[place]? = some (.branch probe otherwise) →
        start + place < otherwise ∧ otherwise ≤ start + code.length) ∧
      ∀ one other, HasSpan start code one → HasSpan start code other → one.Nests other) ∧
    ∀ (source : List Char) (program : Program) (level : Level),
      Program.ofText source = .ok program → program.isEmpty = false →
      ∃ river, River.load level program = .ok river := by
  constructor
  · have hnested := codeAll_nested start stmts
    refine ⟨codeAll start stmts, Prod.ext (lowerAll_next start stmts) rfl, ?_, ?_, hnested.nests⟩
    · intro place address hgoto
      have := hnested.within _ ⟨place, _, hgoto, rfl⟩
      simp only at this
      omega
    · intro place probe otherwise hbranch
      have := hnested.within _ ⟨place, _, hbranch, rfl⟩
      simp only at this
      omega
  · intro source program level hcompile hempty
    have hsize := Program.isEmpty_eq_false_iff.1 hempty
    exact ⟨_, River.load_eq_fresh hsize (Program.closed_of_ofText hcompile) level⟩

/-- A branch in a loop in a loop, all three of which end together. -/
def whirl : List Char :=
  "loop\x7bloop\x7bif up rock\x7bmove left;\x7d\x7d\x7d".toList

theorem jumps_nest_whirl :
    ∃ program, Program.ofText whirl = .ok program ∧ program.isEmpty = false ∧
      ∃ river, River.load Level.pond program = .ok river := by
  have hsize : ((Program.ofText whirl).map Array.isEmpty).toOption = some false := by
    decide +kernel
  cases hcompile : Program.ofText whirl with
  | error rejection =>
      rw [hcompile] at hsize
      cases hsize
  | ok program =>
      rw [hcompile] at hsize
      have hempty : program.isEmpty = false := Option.some.inj hsize
      exact ⟨program, rfl, hempty, (jumps_nest 0 []).2 whirl program Level.pond hcompile hempty⟩

end Stmt

end RiverPuzzle
