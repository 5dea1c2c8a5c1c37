import RiverPuzzle.Command.Token
import RiverPuzzle.Disk.Path
import RiverPuzzle.Run.Config
import RiverPuzzle.Text.Numeral
import RiverPuzzle.Text.Quoted
import RiverPuzzle.Text.Uppercase

/-!
# Settings

What the arguments of the command line ask for.  Flags are taken from left to
right, a later one in place of an earlier one, except that the program comes
either from a file or from the command line and never from both.  A flag to which
a lone double dash is attached is given without a value, which is no matter until
the value is needed.
-/

namespace RiverPuzzle

/-- What a flag that takes a value is given. -/
inductive Given (α : Type)
  | value (content : α)
  | nothing
deriving DecidableEq, Repr

/-- Where the program comes from. -/
inductive ProgramOrigin
  | file (path : Given Path)
  | text (source : List Char)
deriving DecidableEq, Repr

/-- What the command is to do with the program. -/
structure Settings where
  levelsDir : Given Path
  level : Given Int
  maxTicks : Given Int
  outDir : Option (Given Path)
  traced : Bool
  listing : Bool
  logLevel : Given Severity
deriving DecidableEq, Repr

/-- Why the arguments cannot be used. -/
inductive UsageFault
  | ambiguous (ambiguity : Ambiguity)
  | valueMissing (flag : Flag)
  | valueIgnored (flag : Flag) (value : List Char)
  | notWhole (flag : Flag) (value : List Char)
  | noSuchSeverity (value : List Char)
  | excluded (flag other : Flag)
  | noProgram
  | unrecognized (arguments : List (List Char))
deriving DecidableEq, Repr

/-- Texts with a separator between each two. -/
def joinWith (separator : String) (texts : List (List Char)) : String :=
  separator.intercalate (texts.map String.ofList)

def UsageFault.message : UsageFault → String
  | .ambiguous ambiguity =>
      "ambiguous option: " ++ String.ofList ambiguity.argument ++ " could match "
        ++ joinWith ", " (ambiguity.matching.map Spelling.text)
  | .valueMissing flag => "argument " ++ flag.title ++ ": expected one argument"
  | .valueIgnored flag value =>
      "argument " ++ flag.title ++ ": ignored explicit argument " ++ Text.quoted value
  | .notWhole flag value =>
      "argument " ++ flag.title ++ ": invalid int value: " ++ Text.quoted value
  | .noSuchSeverity value =>
      "argument " ++ Flag.logLevel.title ++ ": invalid choice: " ++ Text.quoted value
        ++ " (choose from "
        ++ ", ".intercalate (Severity.all.map fun severity => Text.quoted severity.name.toList)
        ++ ")"
  | .excluded flag other =>
      "argument " ++ flag.title ++ ": not allowed with argument " ++ other.title
  | .noProgram =>
      "one of the arguments " ++ Flag.program.title ++ " " ++ Flag.source.title ++ " is required"
  | .unrecognized arguments => "unrecognized arguments: " ++ joinWith " " arguments

/-- What the arguments ask for: a program and what to do with it, or help. -/
inductive Request
  | run (origin : ProgramOrigin) (settings : Settings)
  | help
deriving DecidableEq, Repr

namespace Settings

/-- The settings when no flag is given. -/
def initial : Settings where
  levelsDir := .value (Path.ofText "levels")
  level := .value 1
  maxTicks := .value RunConfig.defaultMaxTicks
  outDir := none
  traced := true
  listing := false
  logLevel := .value .warning

end Settings

/-- The flags taken so far, and the words that belong to none of them, newest
first. -/
structure Taken where
  origin : Option ProgramOrigin
  settings : Settings
  extras : List (List Char)
deriving DecidableEq, Repr

namespace Taken

/-- No flag is taken. -/
def initial : Taken :=
  ⟨none, .initial, []⟩

/-- Read the text that is given.  A lone double dash stands for no value. -/
def readGiven {α : Type} (read : List Char → Except UsageFault α) (text : List Char) :
    Except UsageFault (Given α) :=
  if text = ['-', '-'] then .ok .nothing else (read text).map .value

/-- The whole number that is given. -/
def readWhole (flag : Flag) (text : List Char) : Except UsageFault Int :=
  match Text.numeral? text with
  | some number => .ok number
  | none => .error (.notWhole flag text)

/-- The severity that is given, in letters of either case. -/
def readSeverity (text : List Char) : Except UsageFault Severity :=
  let name := Text.uppercase text
  match Severity.all.find? fun severity => severity.name.toList = name with
  | some severity => .ok severity
  | none => .error (.noSuchSeverity name)

/-- The path that is given. -/
def readPath (text : List Char) : Except UsageFault Path :=
  .ok (Path.ofText (String.ofList text))

/-- The program that is given; no value is a program without a statement. -/
def readSource (text : List Char) : List Char :=
  if text = ['-', '-'] then [] else text

/-- Take the program from a file. -/
def fromFile (taken : Taken) (path : Given Path) : Except UsageFault Taken :=
  match taken.origin with
  | some (.text _) => .error (.excluded .program .source)
  | _ => .ok { taken with origin := some (.file path) }

/-- Take the program from the command line. -/
def fromText (taken : Taken) (source : List Char) : Except UsageFault Taken :=
  match taken.origin with
  | some (.file _) => .error (.excluded .source .program)
  | _ => .ok { taken with origin := some (.text source) }

/-- Change the settings. -/
def change (taken : Taken) (settings : Settings) : Taken :=
  { taken with settings := settings }

/-- Take a flag with its value. -/
def takeValue (taken : Taken) (flag : Flag) (text : List Char) : Except UsageFault Taken :=
  match flag with
  | .program =>
      match readGiven readPath text with
      | .error fault => .error fault
      | .ok path => taken.fromFile path
  | .source => taken.fromText (readSource text)
  | .levelsDir =>
      (readGiven readPath text).map fun levelsDir =>
        taken.change { taken.settings with levelsDir := levelsDir }
  | .level =>
      (readGiven (readWhole .level) text).map fun level =>
        taken.change { taken.settings with level := level }
  | .maxTicks =>
      (readGiven (readWhole .maxTicks) text).map fun maxTicks =>
        taken.change { taken.settings with maxTicks := maxTicks }
  | .outDir =>
      (readGiven readPath text).map fun outDir =>
        taken.change { taken.settings with outDir := some outDir }
  | .logLevel =>
      (readGiven readSeverity text).map fun logLevel =>
        taken.change { taken.settings with logLevel := logLevel }
  | .help | .trace _ | .listing => .ok taken

/-- Take a flag that has no value. -/
def takeBare (taken : Taken) : Flag → Taken
  | .trace on => taken.change { taken.settings with traced := on }
  | .listing => taken.change { taken.settings with listing := true }
  | _ => taken

/-- Put a word aside. -/
def putAside (taken : Taken) (word : List Char) : Taken :=
  { taken with extras := word :: taken.extras }

/-- What is left of the letters glued to the flag for help.  The flag's own letter
may be repeated, and nothing else may follow. -/
def surplus (letters : List Char) : List Char :=
  letters.dropWhile (· == 'h')

/-- Take the tokens from left to right, until help is asked for. -/
def takeAll (taken : Taken) : List Token → Except UsageFault (Option Taken)
  | [] => .ok (some taken)
  | .word text :: rest => (taken.putAside text).takeAll rest
  | .separator :: rest => (taken.putAside ['-', '-']).takeAll rest
  | .unknown text :: rest => (taken.putAside text).takeAll rest
  | .glued spelling letters :: _ =>
      if (surplus letters).isEmpty then .ok none
      else .error (.valueIgnored spelling.flag (surplus letters))
  | .flag spelling (some value) :: rest =>
      if spelling.flag.takesValue then
        match taken.takeValue spelling.flag value with
        | .error fault => .error fault
        | .ok taken => taken.takeAll rest
      else .error (.valueIgnored spelling.flag value)
  | .flag spelling none :: rest =>
      if spelling.flag = .help then .ok none
      else if spelling.flag.takesValue then
        match rest with
        | .word text :: rest =>
            match taken.takeValue spelling.flag text with
            | .error fault => .error fault
            | .ok taken => taken.takeAll rest
        | _ => .error (.valueMissing spelling.flag)
      else (taken.takeBare spelling.flag).takeAll rest

/-- Complain about what is missing, then about what is too much. -/
def request (taken : Taken) : Except UsageFault Request :=
  match taken.origin with
  | none => .error .noProgram
  | some origin =>
      if taken.extras.isEmpty then .ok (.run origin taken.settings)
      else .error (.unrecognized taken.extras.reverse)

end Taken

/-- What the arguments ask for. -/
def Request.ofArguments (arguments : List (List Char)) : Except UsageFault Request :=
  match Token.ofArguments arguments with
  | .error ambiguity => .error (.ambiguous ambiguity)
  | .ok tokens =>
      match Taken.initial.takeAll tokens with
      | .error fault => .error fault
      | .ok none => .ok .help
      | .ok (some taken) => taken.request

end RiverPuzzle
