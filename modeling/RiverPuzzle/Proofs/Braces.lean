import RiverPuzzle.Proofs.Completion
import RiverPuzzle.Proofs.Joining

/-!
# Braces

A block is opened by one brace and closed by another, and there are no braces elsewhere in what
the reader takes.  So the blocks that are open are as many as the braces that are not closed,
and what is said about braces is true: a text has an unterminated block exactly if closing
braces are all that it lacks, and a brace is unmatched exactly if a whole program stands
before it.
-/

namespace RiverPuzzle

/-- There is no brace in the text. -/
def Braceless (text : List Char) : Prop :=
  '{' ∉ text ∧ '}' ∉ text

instance (text : List Char) : Decidable (Braceless text) :=
  inferInstanceAs (Decidable ('{' ∉ text ∧ '}' ∉ text))

namespace Braceless

variable {front back text : List Char}

theorem append (hfront : Braceless front) (hback : Braceless back) : Braceless (front ++ back) :=
  ⟨List.not_mem_append hfront.1 hback.1, List.not_mem_append hfront.2 hback.2⟩

theorem of_blanks (h : Blanks text) : Braceless text :=
  ⟨fun hmem => Bool.false_ne_true (h '{' hmem), fun hmem => Bool.false_ne_true (h '}' hmem)⟩

theorem count_opening (h : Braceless front) (text : List Char) :
    (front ++ text).count '{' = text.count '{' := by
  rw [List.count_append, List.count_eq_zero_of_not_mem h.1, Nat.zero_add]

theorem count_closing (h : Braceless front) (text : List Char) :
    (front ++ text).count '}' = text.count '}' := by
  rw [List.count_append, List.count_eq_zero_of_not_mem h.2, Nat.zero_add]

end Braceless

theorem Direction.braceless_word (direction : Direction) : Braceless direction.word := by
  cases direction <;> decide

theorem Tile.braceless_word (tile : Tile) : Braceless tile.word := by
  cases tile <;> decide

theorem Opens.braceless {header : Header} {front : List Char} (h : Opens header front) :
    Braceless front := by
  have hloop : Braceless Reader.loopWord := by decide
  have hif : Braceless Reader.ifWord := by decide
  cases h with
  | loop hgap => exact hloop.append (.of_blanks hgap)
  | cond direction tile hgap hne hafter =>
      exact hif.append (direction.braceless_word.append ((Braceless.of_blanks hgap).append
        (tile.braceless_word.append (.of_blanks hafter))))

namespace Complaint

theorem head?_text_sign (char : Char) : (sign char).text.toList.head? = some 'e' := by
  have hword : "expected ".toList = ['e', 'x', 'p', 'e', 'c', 't', 'e', 'd', ' '] := by
    decide +kernel
  have htext : (sign char).text = "expected " ++ Text.quoted [char] := rfl
  rw [htext, String.toList_append, hword, List.cons_append, List.head?_cons]

/-- What a complaint about blocks says no other complaint says. -/
theorem text_eq_iff {complaint other : Complaint}
    (hother : other = .tooDeep ∨ other = .unterminated ∨ other = .unmatched) :
    complaint.text = other.text ↔ complaint = other := by
  refine ⟨fun htext => ?_, congrArg text⟩
  cases complaint with
  | sign char =>
      have hhead := head?_text_sign char
      rw [htext] at hhead
      obtain rfl | rfl | rfl := hother <;> exact absurd hhead (by decide +kernel)
  | _ => obtain rfl | rfl | rfl := hother <;> revert htext <;> decide +kernel

end Complaint

namespace Reader

variable {limit depth : Nat} {front back rest : List Char} {complaint : Complaint}
  {words : Set (List Char)} {blocks opened : List OpenBlock} {done made : List Stmt}

/-- Every block that is open has had its brace, and no other. -/
theorem Leads.count_braces (h : Leads limit blocks done front opened made) :
    front.count '{' + blocks.length = front.count '}' + opened.length := by
  induction h with
  | refl => simp
  | gap hgap h ih =>
      have hgap := Braceless.of_blanks hgap
      rwa [hgap.count_opening, hgap.count_closing]
  | @move blocks opened done made gap text direction hgap h ih =>
      have hmove : Braceless moveWord := by decide
      have hword := direction.braceless_word
      have hgap := Braceless.of_blanks hgap
      have hsign : Braceless [';'] := by decide
      rw [← List.singleton_append, hmove.count_opening, hmove.count_closing, hword.count_opening,
        hword.count_closing, hgap.count_opening, hgap.count_closing, hsign.count_opening,
        hsign.count_closing, ih]
  | opening hopens hdepth h ih =>
      have hfront := hopens.braceless
      rw [List.length_cons] at ih
      rw [hfront.count_opening, hfront.count_closing, List.count_cons_self,
        List.count_cons_of_ne (by decide)]
      omega
  | closing block h ih =>
      rw [List.length_cons, List.count_cons_self, List.count_cons_of_ne (by decide)]
      omega

theorem Awaits.braceless (h : Awaits limit depth front complaint words) : Braceless front := by
  have hmove : Braceless moveWord := by decide
  have hif : Braceless ifWord := by decide
  cases h with
  | way hword =>
      obtain rfl | rfl := hword
      · exact hmove
      · exact hif
  | semicolon direction hgap =>
      exact hmove.append (direction.braceless_word.append (.of_blanks hgap))
  | gap direction => exact hif.append direction.braceless_word
  | tile direction hgap hne =>
      exact hif.append (direction.braceless_word.append (.of_blanks hgap))
  | brace hopens hdepth => exact hopens.braceless
  | room hopens hdepth => exact hopens.braceless

theorem Halts.braceless (h : Halts limit depth front complaint rest) : Braceless front := by
  cases h with
  | within hawaits hlacks => exact hawaits.braceless
  | statement hlacks hbrace hne => decide
  | unterminated hdepth => decide
  | unmatched hdepth hbrace => decide

/-- The reader complains about the depth only where no more blocks may be open. -/
theorem Halts.limit_le (h : Halts limit depth front .tooDeep rest) : limit ≤ depth := by
  cases h with
  | within hawaits hlacks =>
      cases hawaits with
      | room hopens hdepth => exact hdepth

/-- An unterminated block is found at the end of the text, and between statements. -/
theorem Halts.unterminated_inv (h : Halts limit depth front .unterminated rest) :
    0 < depth ∧ front = [] ∧ rest = [] := by
  cases h with
  | within hawaits hlacks => cases hawaits
  | unterminated hdepth => exact ⟨hdepth, rfl, rfl⟩

/-- An unmatched brace is found where no block is open, and between statements. -/
theorem Halts.unmatched_inv (h : Halts limit depth front .unmatched rest) :
    depth = 0 ∧ front = [] ∧ ['}'] <+: rest := by
  cases h with
  | within hawaits hlacks => cases hawaits
  | unmatched hdepth hbrace => exact ⟨hdepth, rfl, hbrace⟩

/-- The reader never waits for a closing brace in a statement. -/
theorem Awaits.closing_notMem (h : Awaits limit depth front complaint words) :
    ∀ word ∈ words, '}' ∉ word := by
  apply h.forall_words fun word => '}' ∉ word
  · decide
  · decide
  · intro char hchar
    exact (Braceless.of_blanks (blanks_cons hchar blanks_nil)).2
  · exact fun direction => direction.braceless_word.2
  · exact fun tile => tile.braceless_word.2

theorem closing_notMem_headWords : ∀ word ∈ headWords ∪ blankWords, '}' ∉ word := by
  rintro word ((rfl | rfl | rfl) | ⟨char, hchar, rfl⟩)
  · decide
  · decide
  · decide
  · exact (Braceless.of_blanks (blanks_cons hchar blanks_nil)).2

/-- Words without closing braces do not come about by braces at the end of the text. -/
theorem Lacks.append_braces (h : Lacks rest words) (hwords : ∀ word ∈ words, '}' ∉ word)
    (count : Nat) : Lacks (rest ++ List.replicate count '}') words := by
  intro word hword hbegins
  have hrest : rest <+: rest ++ List.replicate count '}' := List.prefix_append _ _
  rcases List.prefix_or_prefix_of_prefix hbegins hrest with hshort | ⟨more, rfl⟩
  · exact h word hword hshort
  · rw [List.prefix_append_right_inj] at hbegins
    cases more with
    | nil => exact h _ hword (by simp)
    | cons char more =>
        have hchar : char = '}' :=
          List.eq_of_mem_replicate (hbegins.subset List.mem_cons_self)
        apply hwords _ hword
        rw [hchar]
        exact List.mem_append_right rest List.mem_cons_self

/-- Closing braces at the end of the text are no cure, unless they are what is missing. -/
theorem Halts.append_braces (h : Halts limit depth front complaint rest)
    (hcomplaint : complaint ≠ .unterminated) (count : Nat) :
    Halts limit depth front complaint (rest ++ List.replicate count '}') := by
  have hrest : rest <+: rest ++ List.replicate count '}' := List.prefix_append _ _
  cases h with
  | within hawaits hlacks =>
      exact .within hawaits (hlacks.append_braces hawaits.closing_notMem count)
  | statement hlacks hbrace hne =>
      obtain ⟨char, more, rfl⟩ := List.exists_cons_of_ne_nil hne
      refine .statement (hlacks.append_braces closing_notMem_headWords count) ?_
        (List.cons_ne_nil _ _)
      rw [List.cons_append, List.cons_prefix_cons]
      rw [List.cons_prefix_cons] at hbrace
      exact fun hboth => hbrace ⟨hboth.1, List.nil_prefix⟩
  | unterminated hdepth => exact absurd rfl hcomplaint
  | unmatched hdepth hbrace => exact .unmatched hdepth (hbrace.trans hrest)

end Reader

variable {source : List Char} {rejection : Rejection}

/-- The blocks that are open where a text is rejected are as many as the braces that are not
closed before that place. -/
theorem count_braces_of_rejected (hrejected : parse source = .error rejection) :
    ∃ opened : List OpenBlock,
      (source.take rejection.mark.position).count '{' =
        (source.take rejection.mark.position).count '}' + opened.length ∧
      opened.length ≤ maxNesting ∧
      (rejection.complaint = .tooDeep → opened.length = maxNesting) := by
  obtain ⟨front, opened, made, back, rest, rfl, hleads, hhalts, hmark⟩ :=
    parse_eq_error_iff_halts.1 hrejected
  have hle := hleads.length_le (Nat.zero_le maxNesting)
  have hcount := hleads.count_braces
  rw [List.length_nil, Nat.add_zero] at hcount
  refine ⟨opened, ?_, hle, fun hdeep => ?_⟩
  · have hback := hhalts.braceless
    rw [hmark, ← List.append_assoc, List.take_left, List.count_append, List.count_append,
      List.count_eq_zero_of_not_mem hback.1, List.count_eq_zero_of_not_mem hback.2, Nat.add_zero,
      Nat.add_zero, hcount]
  · rw [hdeep] at hhalts
    exact Nat.le_antisymm hle hhalts.limit_le

/-- A text that begins with a closing brace is rejected there. -/
theorem parse_closing (rest : List Char) :
    parse ('}' :: rest) = .error ⟨.unmatched, ⟨'}' :: rest, 0⟩⟩ :=
  parse_of_halts .refl (.unmatched rfl ⟨rest, rfl⟩)

/-- Closing braces behind a text make a program of it only if it has an unterminated block. -/
theorem exists_unterminated {tree : List Stmt} {count : Nat} (hcount : 1 ≤ count)
    (htree : parse (source ++ List.replicate count '}') = .ok tree) :
    ∃ rejection, parse source = .error rejection ∧ rejection.complaint = .unterminated := by
  cases hparse : parse source with
  | ok stmts =>
      obtain ⟨more, rfl⟩ := Nat.exists_eq_add_of_le' hcount
      rw [List.replicate_succ, parse_append_of_error hparse (parse_closing _)] at htree
      cases htree
  | error rejection =>
      refine ⟨rejection, rfl, ?_⟩
      by_contra hcomplaint
      obtain ⟨front, opened, made, back, rest, rfl, hleads, hhalts, hmark⟩ :=
        parse_eq_error_iff_halts.1 hparse
      -- In front of the braces the reader stops as it did without them.
      have hstill := parse_of_halts hleads (hhalts.append_braces hcomplaint count)
      rw [List.append_assoc, List.append_assoc, hstill] at htree
      cases htree

/-- An unterminated block is found at the end of the text, and closing braces for all the blocks
that are open make a program of the text. -/
theorem closed_of_unterminated (hrejected : parse source = .error rejection)
    (hcomplaint : rejection.complaint = .unterminated) :
    rejection.mark.position = source.length ∧
      ∃ count, 1 ≤ count ∧ ∃ tree, parse (source ++ List.replicate count '}') = .ok tree := by
  obtain ⟨front, opened, made, back, rest, rfl, hleads, hhalts, hmark⟩ :=
    parse_eq_error_iff_halts.1 hrejected
  rw [hcomplaint] at hhalts
  obtain ⟨hopen, rfl, rfl⟩ := hhalts.unterminated_inv
  obtain ⟨tree, htree⟩ := Reader.exists_readFrom_braces maxNesting opened made
  rw [hmark]
  refine ⟨rfl, opened.length, hopen, tree, parse_eq_ok_iff.2 ?_⟩
  rw [List.append_nil, List.append_nil, hleads.readFrom_eq, htree]

/-- A brace is unmatched at a place exactly if it stands there behind a whole program. -/
theorem unmatched_iff {position : Nat} :
    (∃ rejection, parse source = .error rejection ∧ rejection.complaint = .unmatched ∧
        rejection.mark.position = position) ↔
      source[position]? = some '}' ∧ ∃ tree, parse (source.take position) = .ok tree := by
  constructor
  · rintro ⟨rejection, hrejected, hcomplaint, rfl⟩
    obtain ⟨front, opened, made, back, rest, rfl, hleads, hhalts, hmark⟩ :=
      parse_eq_error_iff_halts.1 hrejected
    rw [hcomplaint] at hhalts
    obtain ⟨hopen, rfl, more, rfl⟩ := hhalts.unmatched_inv
    obtain rfl := List.length_eq_zero_iff.1 hopen
    rw [hmark, List.append_nil]
    refine ⟨List.getElem?_append_right (Nat.le_refl _) |>.trans (by simp), made.reverse, ?_⟩
    have hread := hleads.readFrom_eq []
    rw [List.append_nil, Reader.readFrom_nil] at hread
    rw [List.take_left]
    exact parse_eq_ok_iff.2 hread
  · rintro ⟨hbrace, tree, htree⟩
    obtain ⟨hlt, hat⟩ := List.getElem?_eq_some_iff.1 hbrace
    have hsource : source = source.take position ++ '}' :: source.drop (position + 1) := by
      rw [← hat, List.getElem_cons_drop, List.take_append_drop]
    have hrejected := parse_append_of_error htree (parse_closing (source.drop (position + 1)))
    rw [← hsource] at hrejected
    refine ⟨_, hrejected, rfl, ?_⟩
    rw [List.length_take, Nat.min_eq_left hlt.le]
    rfl

/-- What is said about braces is true.  A text is rejected for an unterminated block exactly if
it lacks some closing braces and nothing else, and then at its end.  It is rejected for an
unmatched brace at a place exactly if a closing brace stands there behind a whole program.
And wherever it is rejected, up to sixty-four of the braces before that place are open, and all
sixty-four if it is rejected for its depth. -/
theorem brace_complaints (source : List Char) :
    ((∃ rejection, parse source = .error rejection ∧
        rejection.complaint.text = "unterminated block") ↔
      ∃ count, 1 ≤ count ∧ ∃ tree, parse (source ++ List.replicate count '}') = .ok tree) ∧
    (∀ rejection, parse source = .error rejection →
      rejection.complaint.text = "unterminated block" →
      rejection.mark.position = source.length) ∧
    (∀ position,
      (∃ rejection, parse source = .error rejection ∧
          rejection.complaint.text = "unmatched '\x7d'" ∧ rejection.mark.position = position) ↔
        source[position]? = some '}' ∧ ∃ tree, parse (source.take position) = .ok tree) ∧
    ∀ rejection, parse source = .error rejection →
      ∃ excess, excess ≤ 64 ∧
        (source.take rejection.mark.position).count '{' =
          (source.take rejection.mark.position).count '}' + excess ∧
        (rejection.complaint.text = "blocks nested deeper than 64" → excess = 64) := by
  have hdeep : "blocks nested deeper than 64" = Complaint.tooDeep.text := by decide +kernel
  have hopen : "unterminated block" = Complaint.unterminated.text := by decide +kernel
  have hextra : "unmatched '\x7d'" = Complaint.unmatched.text := by decide +kernel
  simp only [hdeep, hopen, hextra, Complaint.text_eq_iff, true_or, or_true]
  refine ⟨⟨?_, ?_⟩, fun rejection hrejected hcomplaint =>
    (closed_of_unterminated hrejected hcomplaint).1, fun position => unmatched_iff, ?_⟩
  · rintro ⟨rejection, hrejected, hcomplaint⟩
    exact (closed_of_unterminated hrejected hcomplaint).2
  · rintro ⟨count, hcount, tree, htree⟩
    exact exists_unterminated hcount htree
  · intro rejection hrejected
    obtain ⟨opened, hcount, hle, hfull⟩ := count_braces_of_rejected hrejected
    exact ⟨opened.length, hle, hcount, hfull⟩

end RiverPuzzle
