/-!
# Words at the start of a text

Main statement: a word is taken off a text exactly when the text is the word
followed by the rest.
-/

namespace RiverPuzzle.Text

/-- The text after a word that it begins with. -/
def afterWord? : List Char → List Char → Option (List Char)
  | [], text => some text
  | _ :: _, [] => none
  | letter :: word, char :: text => if letter = char then afterWord? word text else none

theorem afterWord?_eq_some_iff {word text rest : List Char} :
    afterWord? word text = some rest ↔ text = word ++ rest := by
  induction word generalizing text with
  | nil => simp [afterWord?]
  | cons letter word ih =>
      cases text with
      | nil => simp [afterWord?]
      | cons char text =>
          by_cases hchar : letter = char
          · subst hchar
            simp [afterWord?, ih]
          · have hne : char ≠ letter := fun h => hchar h.symm
            simp [afterWord?, hchar, hne]

theorem length_of_afterWord? {word text rest : List Char}
    (h : afterWord? word text = some rest) : text.length = word.length + rest.length := by
  rw [afterWord?_eq_some_iff.1 h, List.length_append]

end RiverPuzzle.Text
