import Mathlib
import RiverPuzzle.Proofs.PlainNumeral
import RiverPuzzle.Proofs.Wording

/-!
# Listings

A listing shows an instruction on each line, as words with one space between each two, behind
an address that stands to the right of its field.  No word has a space in it, so the words can be
told apart again, and every word tells what it stands for.  The main statement: two programs with
the same lines are one program, the lines have the form that is meant, and they are there unless
some address to jump to has more digits than can be written.
-/

namespace RiverPuzzle

theorem Direction.word_injective : Function.Injective Direction.word := by
  intro one other h
  cases one <;> cases other <;> first | rfl | cases h

theorem Tile.word_injective : Function.Injective Tile.word := by
  intro one other h
  cases one <;> cases other <;> first | rfl | cases h

theorem Direction.space_notMem_word (direction : Direction) : ' ' ∉ direction.word := by
  cases direction <;> decide

theorem Tile.space_notMem_word (tile : Tile) : ' ' ∉ tile.word := by
  cases tile <;> decide

theorem toString_int_injective {left right : Int}
    (h : (toString left).toList = (toString right).toList) : left = right := by
  apply Int.repr_injective
  exact String.toList_injective h

theorem space_notMem_toString (number : Int) : ' ' ∉ (toString number).toList := by
  intro hspace
  rcases Text.isDigit_of_mem_toString hspace with hsign | hdigit
  · exact absurd hsign (by decide)
  · exact absurd hdigit (by decide)

namespace Instr

/-- The words of an instruction. -/
def words : Instr → List (List Char)
  | .move direction => ["move".toList, direction.word]
  | .goto address => ["goto".toList, (toString address).toList]
  | .branch probe otherwise =>
      ["branch_if_not".toList, probe.direction.word, probe.tile.word, "->".toList,
        (toString otherwise).toList]
  | .idle => []

variable {instr : Instr} {text : String}

theorem toList_text (h : instr.text = .ok text) :
    text.toList = [' '].intercalate instr.words := by
  cases instr with
  | move direction =>
      have hmove : "move ".toList = "move".toList ++ [' '] := by decide
      cases h
      simp only [words, String.toList_append, String.toList_ofList, hmove,
        List.intercalate_cons_cons, List.intercalate_singleton]
  | goto address =>
      have hgoto : "goto ".toList = "goto".toList ++ [' '] := by decide
      obtain ⟨-, rfl⟩ := addressed_eq_ok_iff.1 h
      simp only [words, String.toList_append, hgoto, List.intercalate_cons_cons,
        List.intercalate_singleton]
  | branch probe otherwise =>
      have hspace : " ".toList = [' '] := by decide
      have hbranch : "branch_if_not ".toList = "branch_if_not".toList ++ [' '] := by decide
      have harrow : " -> ".toList = [' '] ++ "->".toList ++ [' '] := by decide
      obtain ⟨-, rfl⟩ := addressed_eq_ok_iff.1 h
      simp only [words, String.toList_append, String.toList_ofList, hspace, hbranch, harrow,
        List.intercalate_cons_cons, List.intercalate_singleton, List.append_assoc]
  | idle => cases h

theorem words_ne_nil (h : instr.text = .ok text) : instr.words ≠ [] := by
  cases instr with
  | idle => cases h
  | _ => exact List.cons_ne_nil _ _

theorem space_notMem_words (instr : Instr) : ∀ word ∈ instr.words, ' ' ∉ word := by
  cases instr with
  | move direction =>
      exact List.forall_mem_cons.2 ⟨by decide,
        List.forall_mem_singleton.2 direction.space_notMem_word⟩
  | goto address =>
      exact List.forall_mem_cons.2 ⟨by decide,
        List.forall_mem_singleton.2 (space_notMem_toString address)⟩
  | branch probe otherwise =>
      exact List.forall_mem_cons.2 ⟨by decide, List.forall_mem_cons.2
        ⟨probe.direction.space_notMem_word, List.forall_mem_cons.2
          ⟨probe.tile.space_notMem_word, List.forall_mem_cons.2 ⟨by decide,
            List.forall_mem_singleton.2 (space_notMem_toString otherwise)⟩⟩⟩⟩
  | idle => exact List.forall_mem_nil _

theorem words_injective : Function.Injective words := by
  intro one other h
  cases one with
  | move direction =>
      cases other with
      | move turned => rw [Direction.word_injective (List.cons.inj (List.cons.inj h).2).1]
      | idle => cases h
      | _ => exact absurd (List.head_eq_of_cons_eq h) (by decide)
  | goto address =>
      cases other with
      | goto target => rw [toString_int_injective (List.cons.inj (List.cons.inj h).2).1]
      | idle => cases h
      | _ => exact absurd (List.head_eq_of_cons_eq h) (by decide)
  | branch probe otherwise =>
      cases other with
      | branch sight target =>
          obtain ⟨direction, tile⟩ := probe
          obtain ⟨turned, ahead⟩ := sight
          obtain ⟨hdirection, hrest⟩ := List.cons.inj (List.cons.inj h).2
          obtain ⟨htile, htail⟩ := List.cons.inj hrest
          obtain ⟨htarget, -⟩ := List.cons.inj (List.cons.inj htail).2
          obtain rfl := Direction.word_injective hdirection
          obtain rfl := Tile.word_injective htile
          obtain rfl := toString_int_injective htarget
          rfl
      | idle => cases h
      | _ => exact absurd (List.head_eq_of_cons_eq h) (by decide)
  | idle =>
      cases other with
      | idle => rfl
      | _ => cases h

/-- Instructions with the same text are the same. -/
theorem eq_of_text {one other : Instr} (hone : one.text = .ok text)
    (hother : other.text = .ok text) : one = other := by
  apply words_injective
  have hsplit {instr : Instr} (h : instr.text = .ok text) :
      text.toList.splitOn ' ' = instr.words := by
    rw [toList_text h]
    exact List.splitOn_intercalate ' ' instr.space_notMem_words (words_ne_nil h)
  rw [← hsplit hone, hsplit hother]

end Instr

namespace Program

variable {program : Program} {address : Nat} {lines : List String}

theorem length_listing (h : program.listing = .ok lines) : lines.length = program.size := by
  rw [(linesFrom_eq_ok_iff.1 h).1, Array.length_toList]

/-- A larger number has no fewer digits. -/
theorem length_toDigits_le {one other : Nat} (h : one ≤ other) :
    (Nat.toDigits 10 one).length ≤ (Nat.toDigits 10 other).length := by
  apply (Nat.length_toDigits_le_iff (by decide) Nat.length_toDigits_pos).2
  apply Nat.lt_of_le_of_lt h
  exact (Nat.length_toDigits_le_iff (by decide) Nat.length_toDigits_pos).1 (Nat.le_refl _)

/-- Every address fits in its field. -/
theorem length_toDigits_le_addressWidth (h : address < program.size) :
    (Nat.toDigits 10 address).length ≤ program.addressWidth :=
  length_toDigits_le (Nat.le_sub_one_of_lt h)

theorem listing_getElem? (hlisting : program.listing = .ok lines) (h : address < program.size) :
    ∃ text, program[address].text = .ok text ∧
      lines[address]? = some (listingLine program.addressWidth address text) := by
  obtain ⟨text, htext, hline⟩ := (linesFrom_eq_ok_iff.1 hlisting).2 address h
  rw [Nat.zero_add] at hline
  exact ⟨text, htext, hline⟩

/-- A line is blanks, an address and the words of an instruction, with two spaces between the
two. -/
theorem listingLine_eq (width address : Nat) (text : String) :
    listingLine width address text =
      String.ofList (List.replicate (width - (Nat.toDigits 10 address).length) ' ') ++
        toString address ++ "  " ++ text := by
  rw [listingLine, List.leftpad, String.ofList_append, Nat.toString_eq_ofList_toDigits]

theorem eq_of_listing {one other : Program} (hone : one.listing = .ok lines)
    (hother : other.listing = .ok lines) : one = other := by
  have hsize : one.size = other.size := by
    rw [← length_listing hone, length_listing hother]
  have hwidth : one.addressWidth = other.addressWidth := by
    rw [addressWidth, hsize, addressWidth]
  apply Array.ext hsize
  intro address hleft hright
  obtain ⟨text, htext, hline⟩ := listing_getElem? hone hleft
  obtain ⟨found, hfound, hat⟩ := listing_getElem? hother hright
  rw [hline, hwidth] at hat
  have hsame : text = found := (String.append_right_inj _).1 (Option.some.inj hat)
  exact Instr.eq_of_text htext (hsame ▸ hfound)

/-- Two programs with the same listing are one program.  A listing has a line for each address,
in order: the address in decimal, with spaces before it up to the width of the last address of
the program, then two spaces and the instruction.  Nothing but instructions with addresses of at
most 4300 digits is needed for a listing; without one, the first instruction that has no words
says why. -/
theorem listing_faithful :
    (∀ (left right : Program) (lines : List String),
      left.listing = .ok lines → right.listing = .ok lines → left = right) ∧
    ∀ program : Program,
      ((∃ lines, program.listing = .ok lines) ↔
        .idle ∉ program ∧ ∀ target ∈ program.targets, target.natAbs < 10 ^ Text.maxNumeralDigits) ∧
      (∀ fault, program.listing = .error fault ↔
        ∃ front instr back, program.toList = front ++ instr :: back ∧
          (∀ other ∈ front, ∃ text, other.text = .ok text) ∧
          ((instr = .idle ∧ .foreign = fault) ∨
            ∃ target, instr.target? = some target ∧ 10 ^ Text.maxNumeralDigits ≤ target.natAbs ∧
              .address ⟨target⟩ = fault)) ∧
      ∀ lines, program.listing = .ok lines → lines.length = program.size ∧
        ∀ (address : Nat) (h : address < program.size), ∃ spaces text,
          program[address].text = .ok text ∧
          lines[address]? =
            some (String.ofList (List.replicate spaces ' ') ++ toString address ++ "  " ++
              text) ∧
          spaces + (toString address).length = (toString (program.size - 1)).length := by
  refine ⟨fun left right lines hleft hright => eq_of_listing hleft hright, fun program =>
    ⟨?_, fun fault => ?_, fun lines hlisting => ⟨length_listing hlisting, ?_⟩⟩⟩
  · rw [exists_listing_iff]
    exact forall_worded_iff
  · rw [listing, linesFrom_eq_error_iff]
    simp only [Instr.exists_text_iff, Instr.text_eq_error_iff]
  · intro address h
    obtain ⟨text, htext, hline⟩ := listing_getElem? hlisting h
    refine ⟨_, text, htext, by rw [hline, listingLine_eq], ?_⟩
    have hfits := length_toDigits_le_addressWidth h
    rw [Nat.toString_eq_ofList_toDigits, Nat.toString_eq_ofList_toDigits, String.length_ofList,
      String.length_ofList, Nat.sub_add_cancel hfits, addressWidth]

/-- Of eleven addresses the last but one has a space before it, and to jump back is not listed
as to jump ahead.  A jump that is too far is not listed at all. -/
theorem listing_faithful_eleven :
    (∃ lines, listing (Array.replicate 11 (.move .up)) = .ok lines ∧
      lines[9]? = some " 9  move up") ∧
      listing #[.goto (-1)] ≠ listing #[.goto 1] ∧
      listing #[.move .up, .goto (10 ^ Text.maxNumeralDigits)] =
        .error (.address ⟨10 ^ Text.maxNumeralDigits⟩) := by
  obtain ⟨hone, hall⟩ := listing_faithful
  refine ⟨?_, ?_, ?_⟩
  · obtain ⟨hlisted, -, hform⟩ := hall (Array.replicate 11 (.move .up))
    obtain ⟨lines, hlines⟩ := hlisted.2 ⟨by simp, by simp [targets, Instr.target?]⟩
    obtain ⟨spaces, text, htext, hline, hwidth⟩ := (hform lines hlines).2 9 (by decide)
    have hdigits : (toString 9).length = 1 ∧ (toString (11 - 1)).length = 2 := by decide
    rw [Array.size_replicate, hdigits.1, hdigits.2] at hwidth
    obtain rfl : spaces = 1 := by omega
    cases htext
    refine ⟨lines, hlines, ?_⟩
    rw [hline]
    decide +kernel
  · intro h
    obtain ⟨lines, hlines⟩ := (hall #[.goto 1]).1.2 ⟨by simp, by
      intro target htarget
      cases List.mem_singleton.1 htarget
      exact Nat.one_lt_pow (by decide) (by decide)⟩
    exact absurd (hone _ _ lines (h.trans hlines) hlines) (by decide)
  · have hlong (digits : Nat) : 10 ^ digits ≤ ((10 : Int) ^ digits).natAbs :=
      (Int.natAbs_pow 10 digits).ge
    refine ((hall _).2.1 _).2 ⟨[.move .up], .goto (10 ^ Text.maxNumeralDigits), [], rfl, ?_,
      .inr ⟨_, rfl, hlong _, rfl⟩⟩
    exact List.forall_mem_singleton.2 ⟨_, rfl⟩

end Program

end RiverPuzzle
