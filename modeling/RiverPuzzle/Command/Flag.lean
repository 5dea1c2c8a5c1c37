import RiverPuzzle.Log

/-!
# Flags of the command line

Every flag has one or two spellings.  A flag that takes a value finds it in the
next argument or behind an equals sign.
-/

namespace RiverPuzzle

/-- What a flag asks for. -/
inductive Flag
  | help
  | program
  | source
  | levelsDir
  | level
  | maxTicks
  | outDir
  | trace (on : Bool)
  | listing
  | logLevel
deriving DecidableEq, Repr

namespace Flag

/-- The flag takes a value. -/
def takesValue : Flag → Bool
  | .help | .trace _ | .listing => false
  | _ => true

/-- The spellings of a flag and of its counterpart, as a message shows them. -/
def title : Flag → String
  | .help => "-h/--help"
  | .program => "--program"
  | .source => "--source"
  | .levelsDir => "--levels-dir"
  | .level => "--level"
  | .maxTicks => "--max-ticks"
  | .outDir => "--out-dir"
  | .trace _ => "--trace/--no-trace"
  | .listing => "--listing"
  | .logLevel => "--log-level"

end Flag

/-- One way to write a flag. -/
structure Spelling where
  text : List Char
  flag : Flag
deriving DecidableEq, Repr

/-- The spelling has one dash in front. -/
def Spelling.isShort (spelling : Spelling) : Bool :=
  spelling.text.take 2 != ['-', '-']

/-- Every spelling, in the order in which they are listed. -/
def spellings : List Spelling :=
  [⟨"-h".toList, .help⟩, ⟨"--help".toList, .help⟩, ⟨"--program".toList, .program⟩,
    ⟨"--source".toList, .source⟩, ⟨"--levels-dir".toList, .levelsDir⟩,
    ⟨"--level".toList, .level⟩, ⟨"--max-ticks".toList, .maxTicks⟩,
    ⟨"--out-dir".toList, .outDir⟩, ⟨"--trace".toList, .trace true⟩,
    ⟨"--no-trace".toList, .trace false⟩, ⟨"--listing".toList, .listing⟩,
    ⟨"--log-level".toList, .logLevel⟩]

end RiverPuzzle
