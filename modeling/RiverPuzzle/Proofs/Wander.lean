import Mathlib.Data.List.Forall2
import RiverPuzzle.Proofs.Placement

/-!
# What a tree of statements means

A wanderer follows the tree of statements itself.  It has no address, only a list
of pending work: statements, and behind the body of each loop under way the mark
that runs the body again.  The main statement says that the salmon of a river
whose program comes from a tree are, after every tick, where the wanderers are.
The salmon stays at the address from which the program does the pending work.
-/

namespace RiverPuzzle

/-- An item of pending work: a statement, or the mark behind the body of a loop. -/
inductive Task
  | run (stmt : Stmt)
  | again (body : List Stmt)

namespace Task

/-- The work of a list of statements. -/
def ofBody (body : List Stmt) : List Task :=
  body.map .run

/-- The pending work with no loop in front: a loop gives way to its body and the
mark behind it, which takes no tick. -/
def unfold : List Task → List Task
  | .run (.loop body) :: rest => unfold (ofBody body ++ .again body :: rest)
  | tasks => tasks
termination_by tasks =>
  match tasks with
  | .run stmt :: _ => sizeOf stmt
  | _ => 0
decreasing_by
  cases body with
  | nil => simp [ofBody]
  | cons stmt more =>
      simp only [ofBody, List.map_cons, List.cons_append, Stmt.loop.sizeOf_spec,
        List.cons.sizeOf_spec]
      omega

/-- Pending work that has run out is filled up with the whole tree. -/
def refill (tree : List Stmt) : List Task → List Task
  | [] => ofBody tree
  | tasks => tasks

end Task

/-- A wanderer: its number, where it is, and its pending work. -/
structure Wanderer where
  id : Int
  cell : Cell
  pending : List Task

namespace Wanderer

/-- The wanderer after its first item of pending work. -/
def act (tiles : TileMap) (tree : List Stmt) (wanderer : Wanderer) : Wanderer :=
  match Task.unfold (Task.refill tree wanderer.pending) with
  | .run (.move direction) :: rest =>
      { wanderer with cell := tiles.advance wanderer.cell direction, pending := rest }
  | .run (.cond probe body) :: rest =>
      { wanderer with
        pending := if tiles.senses probe wanderer.cell then Task.ofBody body ++ rest else rest }
  | .again body :: rest =>
      { wanderer with pending := Task.ofBody body ++ .again body :: rest }
  -- Nothing is in front only if the tree is empty, and a loop never is.
  | _ => wanderer

/-- The wanderer after a tick, unless the tick ends on a finish. -/
def survivor? (tiles : TileMap) (tree : List Stmt) (wanderer : Wanderer) : Option Wanderer :=
  let after := wanderer.act tiles tree
  if tiles.shows after.cell .finish then none else some after

end Wanderer

/-- The wanderers that are left after a number of ticks, in order. -/
def wander (tiles : TileMap) (tree : List Stmt) (starts : List Cell) : Nat → List Wanderer
  | 0 => starts.mapIdx fun id cell => ⟨id, cell, []⟩
  | count + 1 => (wander tiles tree starts count).filterMap (Wanderer.survivor? tiles tree)

namespace Task

theorem refill_ne_nil {tree : List Stmt} (htree : tree ≠ []) (tasks : List Task) :
    refill tree tasks ≠ [] := by
  cases tasks with
  | nil => simpa [refill, ofBody] using htree
  | cons task rest => simp [refill]

/-- What can be in front once the loops have given way. -/
theorem unfold_cases {tasks : List Task} (htasks : tasks ≠ []) :
    (∃ direction rest, unfold tasks = .run (.move direction) :: rest) ∨
      (∃ probe body rest, unfold tasks = .run (.cond probe body) :: rest) ∨
      ∃ body rest, unfold tasks = .again body :: rest := by
  fun_induction unfold tasks with
  | case1 body rest ih => exact ih (by simp)
  | case2 tasks hloop =>
      obtain ⟨task, rest, rfl⟩ := List.exists_cons_of_ne_nil htasks
      cases task with
      | again body => exact Or.inr (Or.inr ⟨body, rest, rfl⟩)
      | run stmt =>
          cases stmt with
          | move direction => exact Or.inl ⟨direction, rest, rfl⟩
          | loop body => exact absurd rfl (hloop body rest)
          | cond probe body => exact Or.inr (Or.inl ⟨probe, body, rest, rfl⟩)

end Task

/-- From the address on, the program does the pending work and then ends. -/
inductive Program.Does (program : Program) : Int → List Task → Prop
  | nothing : program.Does program.size []
  | run {address : Int} {stmt : Stmt} {rest : List Task}
      (hcode : program.Holds address (stmt.code address))
      (hrest : program.Does (address + (stmt.code address).length) rest) :
      program.Does address (.run stmt :: rest)
  | again {start : Int} {body : List Stmt} {rest : List Task}
      (hcode : program.Holds start ((Stmt.loop body).code start))
      (hrest : program.Does (start + (Stmt.codeAll start body).length + 1) rest) :
      program.Does (start + (Stmt.codeAll start body).length) (.again body :: rest)

namespace Program.Does

variable {program : Program} {address : Int} {tasks rest : List Task} {body : List Stmt}

theorem ofBody_append (hcode : program.Holds address (Stmt.codeAll address body))
    (hrest : program.Does (address + (Stmt.codeAll address body).length) rest) :
    program.Does address (Task.ofBody body ++ rest) := by
  induction body generalizing address with
  | nil => simpa [Task.ofBody] using hrest
  | cons stmt body ih =>
      rw [Stmt.codeAll_cons] at hcode hrest
      refine run hcode.left (ih hcode.right ?_)
      rw [List.length_append, Int.natCast_add, ← Int.add_assoc] at hrest
      exact hrest

/-- A loop that starts at the address does its body and then comes back. -/
theorem loop_append (hcode : program.Holds address ((Stmt.loop body).code address))
    (hrest : program.Does (address + (Stmt.codeAll address body).length + 1) rest) :
    program.Does address (Task.ofBody body ++ .again body :: rest) := by
  refine ofBody_append ?_ (again hcode hrest)
  rw [Stmt.code_loop] at hcode
  exact hcode.left

theorem run_inv {stmt : Stmt} (h : program.Does address (.run stmt :: rest)) :
    program.Holds address (stmt.code address) ∧
      program.Does (address + (stmt.code address).length) rest := by
  cases h with
  | run hcode hrest => exact ⟨hcode, hrest⟩

theorem again_inv (h : program.Does address (.again body :: rest)) :
    ∃ start, program.Holds start ((Stmt.loop body).code start) ∧
      address = start + (Stmt.codeAll start body).length ∧ program.Does (address + 1) rest := by
  cases h with
  | again hcode hrest => exact ⟨_, hcode, rfl, hrest⟩

theorem unfold (h : program.Does address tasks) : program.Does address (Task.unfold tasks) := by
  fun_induction Task.unfold tasks with
  | case1 body rest ih =>
      apply ih
      obtain ⟨hcode, hrest⟩ := h.run_inv
      refine loop_append hcode ?_
      rw [Stmt.code_loop, List.length_append, List.length_singleton, Int.natCast_add,
        ← Int.add_assoc] at hrest
      exact hrest
  | case2 tasks hloop => exact h

theorem lt_size (h : program.Does address tasks) (htasks : tasks ≠ []) :
    address < program.size := by
  cases h with
  | nothing => exact absurd rfl htasks
  | run hcode hrest =>
      rename_i stmt rest
      have hbounds := hcode.bounds
      have hpos := Stmt.code_length_pos address stmt
      omega
  | again hcode hrest =>
      have hbounds := hcode.bounds
      rw [Stmt.code_loop, List.length_append, List.length_singleton] at hbounds
      omega

theorem whole (tree : List Stmt) :
    (Program.ofStatements tree).Does 0 (Task.ofBody tree) := by
  rw [← List.append_nil (Task.ofBody tree)]
  refine ofBody_append (Holds.self (Program.ofStatements tree)) ?_
  rw [Int.zero_add, ← Program.size_ofStatements]
  exact nothing

/-- Coming to the end of the program and going on at its beginning is running out
of work and taking up the whole tree. -/
theorem wrap {tree : List Stmt} (h : (Program.ofStatements tree).Does address tasks) :
    (Program.ofStatements tree).Does ((Program.ofStatements tree).wrap address)
      (Task.refill tree tasks) := by
  cases tasks with
  | nil =>
      cases h with
      | nothing =>
          rw [Program.wrap, if_neg (Int.lt_irrefl _)]
          exact whole tree
  | cons task rest =>
      rw [Program.wrap, if_pos (h.lt_size (List.cons_ne_nil task rest))]
      exact h

end Program.Does

/-- The salmon is the wanderer: it has the same number and is in the same cell, and
from its address on the program does the pending work. -/
structure Matches (tree : List Stmt) (salmon : Salmon) (wanderer : Wanderer) : Prop where
  id : salmon.id = wanderer.id
  cell : salmon.cell = wanderer.cell
  pending : (Program.ofStatements tree).Does salmon.pc (Task.refill tree wanderer.pending)

namespace Matches

variable {tree : List Stmt} {river : River} {salmon : Salmon} {wanderer : Wanderer}

/-- One instruction is one item of pending work. -/
theorem act (hprogram : river.program = Program.ofStatements tree) (htree : tree ≠ [])
    (h : Matches tree salmon wanderer) :
    ∃ instr, river.program.at? salmon.pc = some instr ∧
      Matches tree (river.led salmon instr) (wanderer.act river.tiles tree) := by
  obtain ⟨hid, hcell, hpending⟩ := h
  have hdoes := hpending.unfold
  rw [hprogram]
  rcases Task.unfold_cases (Task.refill_ne_nil htree wanderer.pending) with
    ⟨direction, rest, hfront⟩ | ⟨probe, body, rest, hfront⟩ | ⟨body, rest, hfront⟩
  · rw [hfront] at hdoes
    obtain ⟨hcode, hrest⟩ := hdoes.run_inv
    rw [Stmt.code_move] at hcode hrest
    refine ⟨.move direction, hcode.at?_head, ?_, ?_, ?_⟩
    · simp [River.led, Wanderer.act, hfront, hid]
    · simp [River.led, Wanderer.act, hfront, Instr.lead, hcell]
    · simpa [River.led, Wanderer.act, hfront, Instr.lead, hprogram] using hrest.wrap
  · rw [hfront] at hdoes
    obtain ⟨hcode, hrest⟩ := hdoes.run_inv
    rw [Stmt.code_cond] at hcode hrest
    have hskip : salmon.pc + 1 + ((Stmt.codeAll (salmon.pc + 1) body).length : Int) =
        salmon.pc + ((Stmt.codeAll (salmon.pc + 1) body).length + 1 : Nat) := by omega
    rw [List.length_cons, ← hskip] at hrest
    -- The body lies right behind the branch, and the rest right behind the body.
    have hbody := Program.Does.ofBody_append hcode.tail hrest
    refine ⟨_, hcode.at?_head, ?_, ?_, ?_⟩
    · simp [River.led, Wanderer.act, hfront, hid]
    · simp [River.led, Wanderer.act, hfront, Instr.lead, hcell]
    · cases hholds : river.tiles.senses probe wanderer.cell with
      | true =>
          simpa [River.led, Wanderer.act, hfront, Instr.lead, hprogram, hcell, hholds] using
            hbody.wrap
      | false =>
          simpa [River.led, Wanderer.act, hfront, Instr.lead, hprogram, hcell, hholds] using
            hrest.wrap
  · rw [hfront] at hdoes
    obtain ⟨start, hcode, hpc, hrest⟩ := hdoes.again_inv
    have hloop := Program.Does.loop_append hcode (hpc ▸ hrest)
    rw [Stmt.code_loop] at hcode
    have hgoto := hcode.right.at?_head
    rw [← hpc] at hgoto
    refine ⟨.goto start, hgoto, ?_, ?_, ?_⟩
    · simp [River.led, Wanderer.act, hfront, hid]
    · simp [River.led, Wanderer.act, hfront, Instr.lead, hcell]
    · simpa [River.led, Wanderer.act, hfront, Instr.lead, hprogram] using hloop.wrap

/-- One tick of the salmon is one tick of the wanderer. -/
theorem survivor? (hproper : river.tiles.Proper)
    (hprogram : river.program = Program.ofStatements tree) (htree : tree ≠ [])
    (h : Matches tree salmon wanderer) :
    Option.Rel (Matches tree) (river.survivor? salmon)
      (wanderer.survivor? river.tiles tree) := by
  obtain ⟨instr, hinstr, hafter⟩ := h.act hprogram htree
  rw [River.survivor?, River.turn_eq hproper hinstr, hafter.cell, Wanderer.survivor?]
  cases river.tiles.shows (wanderer.act river.tiles tree).cell .finish with
  | true => exact Option.Rel.none
  | false => exact Option.Rel.some hafter

end Matches

/-- Wait until there is a finish on the left, and swim into it. -/
def Stmt.hunt : List Stmt :=
  [.cond ⟨.up, .rock⟩ [], .loop [.cond ⟨.left, .finish⟩ [.move .left]]]

namespace River

theorem matches_hatch (tree : List Stmt) (starts : List Cell) :
    List.Forall₂ (Matches tree) (hatch starts)
      (starts.mapIdx fun id cell => (⟨id, cell, []⟩ : Wanderer)) := by
  rw [List.forall₂_iff_get]
  refine ⟨by simp [hatch], ?_⟩
  intro id hsalmon hwanderer
  simp only [hatch, List.get_eq_getElem, List.getElem_mapIdx]
  exact ⟨rfl, rfl, Program.Does.whole tree⟩

theorem matches_wander {level : Level} {tree : List Stmt} (hproper : level.tiles.Proper)
    (htree : tree ≠ []) (count : Nat) :
    List.Forall₂ (Matches tree)
      (drift^[count] (fresh level (Program.ofStatements tree))).salmon
      (wander level.tiles tree level.starts count) := by
  induction count with
  | zero => exact matches_hatch tree level.starts
  | succ count ih =>
      rw [Function.iterate_succ_apply']
      have htiles := iterate_drift_tiles (fresh level (Program.ofStatements tree)) count
      have hprogram := iterate_drift_program (fresh level (Program.ofStatements tree)) count
      refine List.rel_filterMap ?_ ih
      intro salmon wanderer hmatches
      have hnext := hmatches.survivor? (htiles ▸ hproper) hprogram htree
      rwa [htiles] at hnext

/-- The program made of a tree can be put into every river, no tick of it fails, and
after each the salmon that are left, and where they are, are what the tree means. -/
theorem salmon_follow_tree (level : Level) (tree : List Stmt) (count : Nat)
    (hproper : level.tiles.Proper) (htree : tree ≠ []) :
    ∃ river after, load level (Program.ofStatements tree) = .ok river ∧
      river.ticks count = .ok after ∧
      after.salmon.map (fun salmon => (salmon.id, salmon.cell)) =
        (wander level.tiles tree level.starts count).map
          fun wanderer => (wanderer.id, wanderer.cell) := by
  have hsize := Program.size_ofStatements_pos htree
  have hclosed := Program.closed_ofStatements tree
  refine ⟨_, _, load_eq_fresh hsize hclosed level,
    (sound_fresh hproper hsize hclosed).ticks_eq count, ?_⟩
  rw [← List.forall₂_eq_eq_eq, List.forall₂_map_left_iff, List.forall₂_map_right_iff]
  exact (matches_wander hproper htree count).imp fun salmon wanderer h => Prod.ext h.id h.cell

/-- The two salmon beside the finish swim into it, and the third one waits. -/
theorem salmon_follow_tree_pond :
    Level.pond.tiles.Proper ∧ Stmt.hunt ≠ [] ∧
      ∃ river after, load Level.pond (Program.ofStatements Stmt.hunt) = .ok river ∧
        river.ticks 3 = .ok after ∧
        after.salmon.map (fun salmon => (salmon.id, salmon.cell)) = [(2, ⟨5, 5⟩)] := by
  have htree : Stmt.hunt ≠ [] := List.cons_ne_nil _ _
  obtain ⟨river, after, hload, hticks, hsalmon⟩ :=
    salmon_follow_tree Level.pond Stmt.hunt 3 Level.pond_proper htree
  refine ⟨Level.pond_proper, htree, river, after, hload, hticks, ?_⟩
  rw [hsalmon]
  decide +kernel

end River

end RiverPuzzle
