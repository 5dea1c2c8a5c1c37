import Mathlib.Data.List.DropRight
import RiverPuzzle.Text.Numeral

/-!
# Numerals in plain digits

A number that is written in the usual ten digits, without a sign, is read back, as long as it
has no more digits than a numeral may have.  Blanks behind it are trimmed away and leave the
digits as they are.
-/

namespace RiverPuzzle.Text

variable {char : Char} {text : List Char} {number : Nat}

theorem isDigit_bounds (h : char.isDigit = true) : 48 ≤ char.toNat ∧ char.toNat ≤ 57 := by
  simpa [Char.isDigit, UInt32.le_iff_toNat_le] using h

theorem digitValue?_of_isDigit (h : char.isDigit = true) :
    digitValue? char = some (char.toNat - '0'.toNat) := by
  obtain ⟨hge, hle⟩ := isDigit_bounds h
  have hplain : char.toNat < 0x80 := by omega
  simp [digitValue?, hplain, hge, hle]

theorem isBlank_of_isDigit (h : char.isDigit = true) : isBlank char = false := by
  obtain ⟨hge, hle⟩ := isDigit_bounds h
  simp only [isBlank, Bool.or_eq_false_iff, Bool.and_eq_false_iff, decide_eq_false_iff_not,
    beq_eq_false_iff_ne]
  omega

/-- Only what is blank is dropped at the two ends of a text. -/
theorem dropWhile_both_ends {blank : Char → Bool} {blanks : List Char}
    (htext : ∀ char ∈ text, blank char = false) (hne : text ≠ [])
    (hblanks : ∀ char ∈ blanks, blank char = true) :
    (((text ++ blanks).dropWhile blank).reverse.dropWhile blank).reverse = text := by
  obtain ⟨first, rest, rfl⟩ := List.exists_cons_of_ne_nil hne
  have hfront : (first :: rest ++ blanks).dropWhile blank = first :: rest ++ blanks :=
    List.dropWhile_cons_of_neg (by simp [htext first List.mem_cons_self])
  have hback : (first :: rest).reverse.dropWhile blank = (first :: rest).reverse := by
    rw [List.dropWhile_eq_self_iff]
    intro hpos
    rw [htext _ (List.mem_reverse.1 (List.getElem_mem hpos))]
    exact Bool.false_ne_true
  rw [hfront, List.reverse_append,
    List.dropWhile_append_of_pos fun char hchar => hblanks char (List.mem_reverse.1 hchar),
    hback, List.reverse_reverse]

theorem readDigits_of_isDigit (h : ∀ char ∈ text, char.isDigit = true) (seen : List Nat) :
    readDigits seen text =
      some (seen.reverse ++ text.map fun char => char.toNat - '0'.toNat) := by
  induction text generalizing seen with
  | nil => rw [readDigits, List.map_nil, List.append_nil]
  | cons char rest ih =>
      have hchar := h char List.mem_cons_self
      have hnot : char ≠ '_' := by
        rintro rfl
        cases hchar
      rw [readDigits.eq_3 _ _ _ (fun _ _ heq _ => hnot heq), digitValue?_of_isDigit hchar]
      simp only
      rw [ih fun other hother => h other (List.mem_cons_of_mem char hother), List.reverse_cons,
        List.append_assoc, List.singleton_append, List.map_cons]

theorem numeralDigits?_of_isDigit (h : ∀ char ∈ text, char.isDigit = true) (hne : text ≠ []) :
    numeralDigits? text = some (text.map fun char => char.toNat - '0'.toNat) := by
  obtain ⟨first, rest, rfl⟩ := List.exists_cons_of_ne_nil hne
  rw [numeralDigits?, digitValue?_of_isDigit (h first List.mem_cons_self)]
  exact readDigits_of_isDigit (fun char hchar => h char (List.mem_cons_of_mem first hchar)) _

theorem isDigit_of_mem_toDigits (h : char ∈ Nat.toDigits 10 number) : char.isDigit = true :=
  Nat.isDigit_of_mem_toDigits (by decide) (by decide) h

/-- A whole number is written in digits, perhaps with a dash in front. -/
theorem isDigit_of_mem_toString {number : Int} (h : char ∈ (toString number).toList) :
    char = '-' ∨ char.isDigit = true := by
  rw [Int.toString_eq_repr, Int.repr_eq_if] at h
  split at h
  · rw [Nat.toList_repr] at h
    exact .inr (isDigit_of_mem_toDigits h)
  · rw [String.toList_append, Nat.toList_repr] at h
    rcases List.mem_append.1 h with hsign | hdigit
    · exact .inl (List.mem_singleton.1 hsign)
    · exact .inr (isDigit_of_mem_toDigits hdigit)

theorem naturalNumeral?_toDigits (h : (Nat.toDigits 10 number).length ≤ maxNumeralDigits) :
    naturalNumeral? (Nat.toDigits 10 number) = some number := by
  have hvalue : digitsValue ((Nat.toDigits 10 number).map fun char => char.toNat - '0'.toNat) =
      Nat.ofDigitChars 10 (Nat.toDigits 10 number) 0 := by
    rw [digitsValue, List.foldl_map, Nat.ofDigitChars]
  rw [naturalNumeral?, numeralDigits?_of_isDigit (fun _ => isDigit_of_mem_toDigits)
    Nat.toDigits_ne_nil]
  simp only [List.length_map]
  rw [if_pos h, hvalue, Nat.ofDigitChars_toDigits (by decide) (by decide)]

theorem signedNumeral?_toDigits (h : (Nat.toDigits 10 number).length ≤ maxNumeralDigits) :
    signedNumeral? (Nat.toDigits 10 number) = some (number : Int) := by
  have hsign (sign : Char) (rest : List Char) (hdigits : Nat.toDigits 10 number = sign :: rest) :
      sign.isDigit = true :=
    isDigit_of_mem_toDigits (by rw [hdigits]; exact List.mem_cons_self)
  unfold signedNumeral?
  split
  · rename_i hminus
    cases hsign _ _ hminus
  · rename_i hplus
    cases hsign _ _ hplus
  · simp [naturalNumeral?_toDigits h]

/-- A number in plain digits is read back, also with blanks behind it. -/
theorem numeral?_trim_toDigits {blanks : List Char}
    (h : (Nat.toDigits 10 number).length ≤ maxNumeralDigits)
    (hblanks : ∀ char ∈ blanks, isBlank char = true) :
    numeral? (trim (Nat.toDigits 10 number ++ blanks)) = some (number : Int) := by
  have hblank : ∀ char ∈ Nat.toDigits 10 number, isBlank char = false :=
    fun _ hchar => isBlank_of_isDigit (isDigit_of_mem_toDigits hchar)
  have hnumeral : ∀ char ∈ Nat.toDigits 10 number, isNumeralBlank char = false := by
    intro char hchar
    rw [isNumeralBlank, hblank char hchar, Bool.false_and]
  have htrim : trim (Nat.toDigits 10 number ++ blanks) = Nat.toDigits 10 number :=
    dropWhile_both_ends hblank Nat.toDigits_ne_nil hblanks
  have hends := dropWhile_both_ends hnumeral Nat.toDigits_ne_nil (List.forall_mem_nil _)
  rw [List.append_nil] at hends
  rw [htrim, numeral?, hends, signedNumeral?_toDigits h]

end RiverPuzzle.Text
