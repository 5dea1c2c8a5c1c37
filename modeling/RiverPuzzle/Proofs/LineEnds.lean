import RiverPuzzle.Command.Line
import RiverPuzzle.Proofs.Encoding
import RiverPuzzle.Proofs.LevelFolder

/-!
# Line ends of files

A text can be put into a file with its lines ended by a line feed, a carriage return, or both.
Whoever reads the file gets the same text all the same.  The main statement says what follows for
the two kinds of files that are read: a drawn level, and a program for the command.
-/

namespace RiverPuzzle

namespace Text

variable {char : Char} {text : List Char}

theorem unifyNewlines_cons (hchar : char ≠ '\r') (text : List Char) :
    unifyNewlines (char :: text) = char :: unifyNewlines text := by
  rw [unifyNewlines]
  · exact fun _ h => absurd h hchar
  · exact hchar

theorem unifyNewlines_carriage (htext : '\n' ∉ text) :
    unifyNewlines ('\r' :: text) = '\n' :: unifyNewlines text := by
  rw [unifyNewlines]
  rintro rest rfl
  exact htext List.mem_cons_self

end Text

/-- What ends the lines of a file. -/
inductive LineEnd
  | feed
  | pair
  | carriage
deriving DecidableEq, Repr

namespace LineEnd

/-- The characters that end a line. -/
def chars : LineEnd → List Char
  | .feed => ['\n']
  | .pair => ['\r', '\n']
  | .carriage => ['\r']

/-- The text with its lines ended in another way. -/
def write (ending : LineEnd) (text : List Char) : List Char :=
  text.flatMap fun char => if char = '\n' then ending.chars else [char]

variable {ending : LineEnd} {char : Char} {text : List Char}

theorem write_feed (ending : LineEnd) (text : List Char) :
    ending.write ('\n' :: text) = ending.chars ++ ending.write text := rfl

theorem write_cons (hchar : char ≠ '\n') (ending : LineEnd) (text : List Char) :
    ending.write (char :: text) = char :: ending.write text := by
  rw [write, List.flatMap_cons, if_neg hchar]
  rfl

/-- A text with carriage returns alone has no line feed that could make one a pair. -/
theorem feed_notMem_write_carriage (text : List Char) : '\n' ∉ write .carriage text := by
  intro hmem
  obtain ⟨char, -, hchar⟩ := List.mem_flatMap.1 hmem
  split at hchar
  · exact absurd hchar (by decide)
  · rename_i hne
    exact hne (List.mem_singleton.1 hchar).symm

/-- However its lines are ended, the text is read. -/
theorem unifyNewlines_write (ending : LineEnd) (hplain : '\r' ∉ text) :
    Text.unifyNewlines (ending.write text) = text := by
  induction text with
  | nil => rfl
  | cons char text ih =>
      rw [List.mem_cons, not_or] at hplain
      have hrest := ih hplain.2
      by_cases hchar : char = '\n'
      · subst hchar
        cases ending with
        | feed =>
            rw [write_feed, chars, List.singleton_append, Text.unifyNewlines_cons (by decide), hrest]
        | pair =>
            rw [write_feed, chars, List.cons_append, List.singleton_append, Text.unifyNewlines,
              hrest]
        | carriage =>
            rw [write_feed, chars, List.singleton_append,
              Text.unifyNewlines_carriage (feed_notMem_write_carriage text), hrest]
      · rw [write_cons hchar, Text.unifyNewlines_cons (Ne.symm hplain.1), hrest]

end LineEnd

section

variable {disk : Disk} {path : Path} {text : List Char} {ending : LineEnd}

theorem Disk.readText_of_read (hplain : '\r' ∉ text)
    (hfile : disk.read path = .ok (.bytes (Text.encodeUtf8 (ending.write text)))) :
    disk.readText path = .ok text := by
  rw [readText, hfile]
  simp only [Content.text, Text.decodeUtf8_encodeUtf8, ending.unifyNewlines_write hplain]

theorem Level.ofFile_of_readText (hread : disk.readText path = .ok text) :
    ofFile disk path = (ofText text).mapError .format := by
  rw [ofFile, hread]
  dsimp only
  cases ofText text <;> rfl

/-- A program in a file is the program of the text in the file. -/
theorem Command.program_of_readText (hread : disk.readText path = .ok text) :
    program (.file (.value path)) disk = program (.text text) disk := by
  have hsource : sourceText (.file (.value path)) disk = sourceText (.text text) disk := by
    simp only [sourceText, needed, fileText, hread]
  unfold program
  rw [hsource]

theorem Command.program_text_of_error {rejection : Rejection}
    (hrejected : Program.ofText text = .error rejection) :
    program (.text text) disk = .error (.refused (.rejected rejection)) := by
  simp only [program, sourceText, hrejected]

theorem Command.program_text_of_ok {code : Program} (hcode : Program.ofText text = .ok code) :
    program (.text text) disk =
      if code.isEmpty then .error (.refused .emptyProgram) else .ok code := by
  simp only [program, sourceText, hcode]

/-- Whatever ends the lines of a file, the level in it is the one that its text draws, or there is
none for the same reason; the program in it is the program of its text, or it is rejected for the
same reason in the same place; and the command does with the file what it does with the text. -/
theorem line_ends_do_not_matter (hplain : '\r' ∉ text)
    (hfile : disk.read path = .ok (.bytes (Text.encodeUtf8 (ending.write text)))) :
    Level.ofFile disk path = (Level.ofText text).mapError .format ∧
    (∀ rejection, Program.ofText text = .error rejection →
      Command.program (.file (.value path)) disk = .error (.refused (.rejected rejection))) ∧
    (∀ code, Program.ofText text = .ok code →
      Command.program (.file (.value path)) disk =
        if code.isEmpty then .error (.refused .emptyProgram) else .ok code) ∧
    ∀ arguments settings,
      Request.ofArguments arguments = .ok (.run (.file (.value path)) settings) →
      Command.run arguments disk = Command.runWith (.text text) settings disk := by
  have hread := Disk.readText_of_read hplain hfile
  have hprogram := Command.program_of_readText hread
  refine ⟨Level.ofFile_of_readText hread, ?_, ?_, ?_⟩
  · intro rejection hrejected
    rw [hprogram, Command.program_text_of_error hrejected]
  · intro code hcode
    rw [hprogram, Command.program_text_of_ok hcode]
  · intro arguments settings hrequest
    simp only [Command.run, hrequest, Command.runWith, Command.runLogged, hprogram]

end

/-- A word with a letter of two bytes is out of place in the third line, though the file has
carriage returns alone. -/
theorem line_ends_do_not_matter_carriage :
    ∃ (disk : Disk) (text : List Char), text = "loop\n\x7b\nm\u00f6ve".toList ∧
      disk = .shelf
        [("loop.salmon", .file (.bytes (Text.encodeUtf8 (LineEnd.write .carriage text))))] ∧
      '\r' ∉ text ∧
      disk.read ⟨"", ["shelf", "loop.salmon"]⟩ =
        .ok (.bytes (Text.encodeUtf8 (LineEnd.write .carriage text))) ∧
      Level.ofFile disk ⟨"", ["shelf", "loop.salmon"]⟩ = .error (.format .tooShort) ∧
      Command.program (.file (.value ⟨"", ["shelf", "loop.salmon"]⟩)) disk =
        .error (.refused (.rejected ⟨.statement, ⟨text, 7⟩⟩)) ∧
      (Mark.mk text 7).line = 3 ∧ (Mark.mk text 7).column = 1 := by
  refine ⟨_, _, rfl, rfl, ?_⟩
  have hplain : '\r' ∉ "loop\n\x7b\nm\u00f6ve".toList := by decide
  have hfile : (Disk.shelf [("loop.salmon", .file (.bytes
        (Text.encodeUtf8 (LineEnd.write .carriage "loop\n\x7b\nm\u00f6ve".toList))))]).read
      ⟨"", ["shelf", "loop.salmon"]⟩ =
        .ok (.bytes (Text.encodeUtf8
          (LineEnd.write .carriage "loop\n\x7b\nm\u00f6ve".toList))) := by decide +kernel
  have hrejected : Program.ofText "loop\n\x7b\nm\u00f6ve".toList =
      .error ⟨.statement, ⟨"loop\n\x7b\nm\u00f6ve".toList, 7⟩⟩ := by decide +kernel
  have hlevel : Level.ofText "loop\n\x7b\nm\u00f6ve".toList = .error .tooShort := by
    decide +kernel
  obtain ⟨hdrawn, hprogram, -, -⟩ := line_ends_do_not_matter hplain hfile
  refine ⟨hplain, hfile, ?_, hprogram _ hrejected, by decide, by decide⟩
  rw [hdrawn, hlevel]
  rfl

end RiverPuzzle
