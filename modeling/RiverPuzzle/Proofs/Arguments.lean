import RiverPuzzle.Command.Settings
import RiverPuzzle.Result

/-!
# Flags with their values

A flag that needs a value is left without one only where a lone double dash is attached to it by
an equals sign.  This module follows the arguments through their classification and through the
taking of the flags, and shows that all other arguments that can be used give a value for
everything that needs one.
-/

namespace RiverPuzzle

namespace Token

variable {argument text : List Char} {token : Token} {arguments : List (List Char)}

/-- The token is a flag with a lone double dash for the value that it needs.  The text of a
program is none then, but it is there. -/
def isEmptied : Token → Bool
  | .flag spelling (some value) =>
      value == ['-', '-'] && spelling.flag.takesValue && spelling.flag != .source
  | _ => false

/-- The argument is no flag to which a lone double dash is attached for the value that it
needs. -/
def NoneAttached (argument : List Char) : Prop :=
  ∀ token ∈ (ofArgument argument).toOption, token.isEmptied = false

instance (argument : List Char) : Decidable (NoneAttached argument) :=
  inferInstanceAs (Decidable (∀ token ∈ (ofArgument argument).toOption, token.isEmptied = false))

/-- A word is no lone double dash, and no flag has one for the value that it needs. -/
def Carries : Token → Prop
  | .word text => text ≠ ['-', '-']
  | token => token.isEmptied = false

/-- Tokens that carry something, perhaps with a separator and more words behind them. -/
inductive Legible : List Token → Prop
  | nil : Legible []
  | words (texts : List (List Char)) : Legible (.separator :: texts.map .word)
  | cons {token : Token} {rest : List Token} (hcarries : token.Carries) (hrest : Legible rest) :
      Legible (token :: rest)

theorem Carries.value_ne {spelling : Spelling} {value : List Char}
    (h : Carries (.flag spelling (some value))) (htakes : spelling.flag.takesValue = true)
    (hsource : spelling.flag ≠ .source) : value ≠ ['-', '-'] := by
  rintro rfl
  have hemptied : isEmptied (.flag spelling (some ['-', '-'])) = true := by
    simp [isEmptied, htakes, hsource]
  exact Bool.false_ne_true (h.symm.trans hemptied)

theorem eq_of_ofStray (h : ofStray argument = .word text) : text = argument := by
  unfold ofStray at h
  split at h
  · cases h
    rfl
  · cases h

theorem exactAttached?_ne_word : exactAttached? argument ≠ some (.word text) := by
  intro h
  unfold exactAttached? at h
  split at h
  · cases h
  · obtain ⟨spelling, -, hflag⟩ := Option.map_eq_some_iff.1 h
    split at hflag <;> cases hflag

theorem eq_of_ofLong (h : ofLong argument = .ok (.word text)) : text = argument := by
  unfold ofLong at h
  simp only at h
  split at h
  · exact eq_of_ofStray (Except.ok.inj h)
  · cases h
  · cases h

theorem eq_of_ofShort (h : ofShort argument = .word text) : text = argument := by
  unfold ofShort at h
  split at h
  · cases h
  · exact eq_of_ofStray h

/-- An argument that counts as a word is that word. -/
theorem eq_of_ofArgument (h : ofArgument argument = .ok (.word text)) : text = argument := by
  unfold ofArgument at h
  split at h
  · cases h
    rfl
  · cases h
    rfl
  · split at h
    · cases h
    · split at h
      · rename_i hexact
        cases h
        exact absurd hexact exactAttached?_ne_word
      · split at h
        · exact eq_of_ofLong h
        · exact eq_of_ofShort (Except.ok.inj h)
  · cases h
    rfl

theorem carries_ofArgument (hattached : NoneAttached argument) (hdash : argument ≠ ['-', '-'])
    (h : ofArgument argument = .ok token) : token.Carries := by
  have hfull : token.isEmptied = false := hattached token (by rw [h]; rfl)
  cases token with
  | word text =>
      rw [eq_of_ofArgument h]
      exact hdash
  | _ => exact hfull

theorem legible_ofArguments {tokens : List Token}
    (hattached : ∀ argument ∈ arguments, NoneAttached argument)
    (h : ofArguments arguments = .ok tokens) : Legible tokens := by
  fun_induction ofArguments arguments generalizing tokens with
  | case1 =>
      cases h
      exact .nil
  | case2 texts =>
      cases h
      exact .words texts
  | case3 => cases h
  | case4 argument rest hdash token htoken ih =>
      obtain ⟨others, hrest, rfl⟩ := map_eq_ok_iff.1 h
      exact .cons (carries_ofArgument (hattached argument List.mem_cons_self) hdash htoken)
        (ih (fun other hother => hattached other (List.mem_cons_of_mem argument hother)) hrest)

end Token

theorem Given.exists_value {α : Type} {given : Given α} (h : given ≠ .nothing) :
    ∃ content, given = .value content := by
  cases given with
  | value content => exact ⟨content, rfl⟩
  | nothing => exact absurd rfl h

/-- Everything that needs a value has one. -/
structure Settings.Valued (settings : Settings) : Prop where
  levelsDir : settings.levelsDir ≠ .nothing
  level : settings.level ≠ .nothing
  maxTicks : settings.maxTicks ≠ .nothing
  outDir : settings.outDir ≠ some .nothing
  logLevel : settings.logLevel ≠ .nothing

namespace Taken

variable {taken after : Taken} {text : List Char} {tokens : List Token}

/-- The flags taken so far have their values. -/
structure Valued (taken : Taken) : Prop where
  origin : taken.origin ≠ some (.file .nothing)
  settings : taken.settings.Valued

theorem valued_initial : initial.Valued where
  origin := nofun
  settings := ⟨nofun, nofun, nofun, nofun, nofun⟩

theorem Valued.putAside (h : taken.Valued) (word : List Char) : (taken.putAside word).Valued :=
  ⟨h.origin, h.settings⟩

theorem Valued.takeBare (h : taken.Valued) (flag : Flag) : (taken.takeBare flag).Valued := by
  obtain ⟨horigin, hsettings⟩ := h
  obtain ⟨hlevelsDir, hlevel, hmaxTicks, houtDir, hlogLevel⟩ := id hsettings
  cases flag with
  | trace on => exact ⟨horigin, hlevelsDir, hlevel, hmaxTicks, houtDir, hlogLevel⟩
  | listing => exact ⟨horigin, hlevelsDir, hlevel, hmaxTicks, houtDir, hlogLevel⟩
  | _ => exact ⟨horigin, hsettings⟩

theorem readGiven_ne_nothing {α : Type} {read : List Char → Except UsageFault α} {given : Given α}
    (htext : text ≠ ['-', '-']) (h : readGiven read text = .ok given) : given ≠ .nothing := by
  rw [readGiven, if_neg htext] at h
  obtain ⟨content, -, rfl⟩ := map_eq_ok_iff.1 h
  exact nofun

theorem map_readGiven_inv {α : Type} {read : List Char → Except UsageFault α}
    {use : Given α → Taken} (htext : text ≠ ['-', '-'])
    (h : (readGiven read text).map use = .ok after) :
    ∃ given, given ≠ .nothing ∧ after = use given := by
  obtain ⟨given, hgiven, rfl⟩ := map_eq_ok_iff.1 h
  exact ⟨given, readGiven_ne_nothing htext hgiven, rfl⟩

theorem fromFile_inv {path : Given Path} (h : taken.fromFile path = .ok after) :
    after.origin = some (.file path) ∧ after.settings = taken.settings := by
  unfold fromFile at h
  split at h
  · cases h
  · cases h
    exact ⟨rfl, rfl⟩

theorem fromText_inv {source : List Char} (h : taken.fromText source = .ok after) :
    after.origin = some (.text source) ∧ after.settings = taken.settings := by
  unfold fromText at h
  split at h
  · cases h
  · cases h
    exact ⟨rfl, rfl⟩

theorem Valued.takeValue {flag : Flag} (h : taken.Valued)
    (hneeded : flag ≠ .source → text ≠ ['-', '-'])
    (htake : taken.takeValue flag text = .ok after) : after.Valued := by
  obtain ⟨horigin, hsettings⟩ := h
  obtain ⟨hlevelsDir, hlevel, hmaxTicks, houtDir, hlogLevel⟩ := id hsettings
  cases flag with
  | program =>
      have htext := hneeded nofun
      rw [Taken.takeValue] at htake
      cases hgiven : readGiven readPath text with
      | error fault =>
          rw [hgiven] at htake
          cases htake
      | ok path =>
          rw [hgiven] at htake
          obtain ⟨hpath, hsame⟩ := fromFile_inv htake
          refine ⟨?_, hsame ▸ hsettings⟩
          rw [hpath]
          rintro ⟨⟩
          exact readGiven_ne_nothing htext hgiven rfl
  | source =>
      obtain ⟨hsource, hsame⟩ := fromText_inv htake
      refine ⟨?_, hsame ▸ hsettings⟩
      rw [hsource]
      exact nofun
  | levelsDir =>
      obtain ⟨given, hgiven, rfl⟩ := map_readGiven_inv (hneeded nofun) htake
      exact ⟨horigin, hgiven, hlevel, hmaxTicks, houtDir, hlogLevel⟩
  | level =>
      obtain ⟨given, hgiven, rfl⟩ := map_readGiven_inv (hneeded nofun) htake
      exact ⟨horigin, hlevelsDir, hgiven, hmaxTicks, houtDir, hlogLevel⟩
  | maxTicks =>
      obtain ⟨given, hgiven, rfl⟩ := map_readGiven_inv (hneeded nofun) htake
      exact ⟨horigin, hlevelsDir, hlevel, hgiven, houtDir, hlogLevel⟩
  | outDir =>
      obtain ⟨given, hgiven, rfl⟩ := map_readGiven_inv (hneeded nofun) htake
      refine ⟨horigin, hlevelsDir, hlevel, hmaxTicks, ?_, hlogLevel⟩
      rintro ⟨⟩
      exact hgiven rfl
  | logLevel =>
      obtain ⟨given, hgiven, rfl⟩ := map_readGiven_inv (hneeded nofun) htake
      exact ⟨horigin, hlevelsDir, hlevel, hmaxTicks, houtDir, hgiven⟩
  | _ =>
      cases htake
      exact ⟨horigin, hsettings⟩

theorem takeAll_words (taken : Taken) (texts : List (List Char))
    (h : taken.takeAll (texts.map .word) = .ok (some after)) :
    after.origin = taken.origin ∧ after.settings = taken.settings := by
  induction texts generalizing taken with
  | nil =>
      cases h
      exact ⟨rfl, rfl⟩
  | cons text texts ih =>
      exact ih (taken.putAside text) h

theorem Valued.takeAll (h : taken.Valued) (hlegible : Token.Legible tokens)
    (htake : taken.takeAll tokens = .ok (some after)) : after.Valued := by
  fun_induction Taken.takeAll taken tokens with
  | case1 taken =>
      cases htake
      exact h
  | case2 taken text rest ih =>
      cases hlegible with
      | cons _ hrest => exact ih (h.putAside text) hrest htake
  | case3 taken rest ih =>
      cases hlegible with
      | words texts =>
          obtain ⟨horigin, hsettings⟩ := takeAll_words _ texts htake
          exact ⟨horigin ▸ h.origin, hsettings ▸ h.settings⟩
      | cons _ hrest => exact ih (h.putAside ['-', '-']) hrest htake
  | case4 taken text rest ih =>
      cases hlegible with
      | cons _ hrest => exact ih (h.putAside text) hrest htake
  | case5 => cases htake
  | case6 => cases htake
  | case7 => cases htake
  | case8 taken spelling value rest htakes next hnext ih =>
      cases hlegible with
      | cons hvalue hrest => exact ih (h.takeValue (hvalue.value_ne htakes) hnext) hrest htake
  | case9 => cases htake
  | case10 => cases htake
  | case11 => cases htake
  | case12 taken spelling _ _ text rest next hnext ih =>
      cases hlegible with
      | cons _ hwords =>
          cases hwords with
          | cons hword hrest => exact ih (h.takeValue (fun _ => hword) hnext) hrest htake
  | case13 => cases htake
  | case14 taken spelling rest _ _ ih =>
      cases hlegible with
      | cons _ hrest => exact ih (h.takeBare spelling.flag) hrest htake

end Taken

/-- Where no lone double dash stands for a value that is needed, everything that is needed is
given. -/
theorem Request.valued_of_run {arguments : List (List Char)} {origin : ProgramOrigin}
    {settings : Settings} (hattached : ∀ argument ∈ arguments, Token.NoneAttached argument)
    (h : Request.ofArguments arguments = .ok (.run origin settings)) :
    origin ≠ .file .nothing ∧ settings.Valued := by
  unfold Request.ofArguments at h
  split at h
  · cases h
  · rename_i tokens htokens
    split at h
    · cases h
    · cases h
    · rename_i taken htake
      obtain ⟨horigin, hsettings⟩ :=
        Taken.valued_initial.takeAll (Token.legible_ofArguments hattached htokens) htake
      unfold Taken.request at h
      split at h
      · cases h
      · rename_i found hfound
        split at h
        · cases h
          exact ⟨fun heq => horigin (heq ▸ hfound), hsettings⟩
        · cases h

end RiverPuzzle
