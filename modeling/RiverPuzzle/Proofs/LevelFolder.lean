import Mathlib.Data.List.Nodup
import RiverPuzzle.Level.Folder
import RiverPuzzle.Proofs.OpenWater

/-!
# Files of a folder of levels

What becomes of every file of a folder in which levels are looked for.  A file that cannot
be read or draws no level is skipped with one warning, as long as it holds a text; the first
file that holds none stops the reading.  The main statement reads off both outcomes from the
files that the folder holds.
-/

namespace RiverPuzzle

/-- What the log says about a file that holds no level. -/
def LevelFileFault.message : LevelFileFault → String
  | .read fault => fault.message
  | .format fault => fault.message

namespace Disk

variable {disk : Disk} {path folder : Path} {location : Location} {name : String}

/-- The file at a path holds a text, unless it cannot be read. -/
def isText (disk : Disk) (path : Path) : Bool :=
  match disk.readText path with
  | .error (.decode _) => false
  | _ => true

theorem getLast?_of_dropLast {other : Location} :
    (if other.dropLast = location then other.getLast? else none) = some name ↔
      other = location ++ [name] := by
  constructor
  · intro h
    by_cases hinit : other.dropLast = location
    · rw [if_pos hinit] at h
      obtain ⟨init, rfl⟩ := List.getLast?_eq_some_iff.1 h
      rw [← hinit, List.dropLast_concat]
    · rw [if_neg hinit] at h
      cases h
  · rintro rfl
    rw [List.dropLast_concat, if_pos rfl, List.getLast?_concat]

/-- Something lies at a location below the top folder exactly if the disk has an entry
there. -/
theorem mem_locations_iff (hne : location ≠ []) :
    location ∈ disk.entries.map Prod.fst ↔ disk.entry? location ≠ none := by
  have hlookup : disk.entry? location = disk.entries.lookup location :=
    if_neg (by simpa using hne)
  rw [hlookup, ne_eq, List.lookup_eq_none_iff]
  constructor
  · intro hmem hnone
    obtain ⟨other, hother, rfl⟩ := List.mem_map.1 hmem
    simpa using hnone other hother
  · intro hsome
    by_contra hnot
    apply hsome
    intro other hother
    rw [bne_iff_ne]
    rintro rfl
    exact hnot (List.mem_map_of_mem hother)

/-- The names that a disk lists in a folder, read off its locations. -/
theorem names_eq (hfolder : disk.folder? folder = .ok (some location)) :
    disk.names folder = .ok ((disk.entries.map Prod.fst).filterMap fun other =>
      if other.dropLast = location then other.getLast? else none) := by
  rw [names, hfolder, List.filterMap_map]
  rfl

theorem names_nodup {names : List String} (hfolder : disk.folder? folder = .ok (some location))
    (hnames : disk.names folder = .ok names) : names.Nodup := by
  cases (names_eq hfolder).symm.trans hnames
  apply List.Nodup.filterMap ?_ disk.nodup
  intro one other name hone hother
  rw [getLast?_of_dropLast.1 hone, getLast?_of_dropLast.1 hother]

/-- The names in a folder are those of its entries. -/
theorem mem_names_iff {names : List String}
    (hfolder : disk.folder? folder = .ok (some location))
    (hnames : disk.names folder = .ok names) :
    name ∈ names ↔ disk.entry? (location ++ [name]) ≠ none := by
  cases (names_eq hfolder).symm.trans hnames
  rw [← mem_locations_iff (by simp), List.mem_filterMap]
  simp only [getLast?_of_dropLast, exists_eq_right]

/-- The files of a folder that should hold a level, by name. -/
def levelFiles (disk : Disk) (folder : Path) : List Path :=
  match disk.names folder with
  | .ok names => Level.filesAmong folder names
  | .error _ => []

end Disk

namespace Level

variable {disk : Disk} {path folder : Path} {paths : List Path}

/-- The level in the file at a path, if it holds one. -/
def inFile? (disk : Disk) (path : Path) : Option Level :=
  (ofFile disk path).toOption

/-- The warning about the file at a path, if it holds no level. -/
def warning? (disk : Disk) (path : Path) : Option LogRecord :=
  match ofFile disk path with
  | .ok _ => none
  | .error fault => some (skipRecord path fault.message)

theorem ofFile_of_inFile? {level : Level} (h : inFile? disk path = some level) :
    ofFile disk path = .ok level := by
  rw [inFile?] at h
  cases hfile : ofFile disk path with
  | error fault =>
      rw [hfile] at h
      cases h
  | ok found =>
      rw [hfile] at h
      cases h
      rfl

/-- A file that holds no text stops the reading. -/
theorem ofFile_of_not_isText (h : disk.isText path = false) :
    ∃ fault, ofFile disk path = .error (.read (.decode fault)) := by
  rw [Disk.isText] at h
  split at h
  · rename_i fault hread
    exact ⟨fault, by rw [ofFile, hread]⟩
  · cases h

theorem isText_of_ofFile {fault : Text.DecodeFault}
    (h : ofFile disk path = .error (.read (.decode fault))) : disk.isText path = false := by
  rw [ofFile] at h
  split at h
  · rename_i other hread
    cases h
    rw [Disk.isText, hread]
  · split at h <;> cases h

section

variable (levels : List Level) (log : List LogRecord) (rest : List Path)

theorem readFiles_level {level : Level} (h : ofFile disk path = .ok level) :
    readFiles disk levels log (path :: rest) = readFiles disk (level :: levels) log rest := by
  rw [readFiles, h]

/-- A file that holds a text but no level is skipped. -/
theorem readFiles_skip {fault : LevelFileFault} (h : ofFile disk path = .error fault)
    (htext : disk.isText path) :
    readFiles disk levels log (path :: rest) =
      readFiles disk levels (skipRecord path fault.message :: log) rest := by
  rw [readFiles, h]
  rcases fault with (fault | fault) | fault
  · rfl
  · rw [isText_of_ofFile h] at htext
    cases htext
  · rfl

/-- The reading goes on behind files that hold texts. -/
theorem readFiles_append {before : List Path} (hbefore : ∀ path ∈ before, disk.isText path) :
    readFiles disk levels log (before ++ rest) =
      readFiles disk ((before.filterMap (inFile? disk)).reverse ++ levels)
        ((before.filterMap (warning? disk)).reverse ++ log) rest := by
  induction before generalizing levels log with
  | nil => rfl
  | cons path before ih =>
      have hothers := fun other hother => hbefore other (List.mem_cons_of_mem path hother)
      rcases hfile : ofFile disk path with fault | level
      · rw [List.cons_append, readFiles_skip levels log _ hfile (hbefore path List.mem_cons_self),
          ih _ _ hothers, List.filterMap_cons_none (by rw [inFile?, hfile]; rfl),
          List.filterMap_cons_some (by rw [warning?, hfile]), List.reverse_cons,
          List.append_assoc, List.singleton_append]
      · rw [List.cons_append, readFiles_level levels log _ hfile, ih _ _ hothers,
          List.filterMap_cons_some (by rw [inFile?, hfile]; rfl),
          List.filterMap_cons_none (by rw [warning?, hfile]), List.reverse_cons,
          List.append_assoc, List.singleton_append]

end

/-- When all files hold texts, the levels and the warnings are those of the files. -/
theorem readFiles_of_texts (htexts : ∀ path ∈ paths, disk.isText path) :
    readFiles disk [] [] paths =
      ⟨.ok (paths.filterMap (inFile? disk)), paths.filterMap (warning? disk)⟩ := by
  have happend := readFiles_append [] [] [] htexts
  simp only [List.append_nil] at happend
  rw [happend, readFiles, List.reverse_reverse, List.reverse_reverse]

/-- The first file that holds no text stops the reading. -/
theorem readFiles_of_not_text (h : ∃ path ∈ paths, disk.isText path = false) :
    ∃ before path after fault, paths = before ++ path :: after ∧
      (∀ earlier ∈ before, disk.isText earlier) ∧
      ofFile disk path = .error (.read (.decode fault)) ∧
      readFiles disk [] [] paths =
        ⟨.error (.decode fault), before.filterMap (warning? disk)⟩ := by
  obtain ⟨first, hfirst⟩ : ∃ first, paths.find? (fun path => !disk.isText path) = some first := by
    rw [← Option.isSome_iff_exists, List.find?_isSome]
    simpa using h
  obtain ⟨hbad, before, after, rfl, hbefore⟩ := List.find?_eq_some_iff_append.1 hfirst
  have htexts : ∀ earlier ∈ before, disk.isText earlier := by simpa using hbefore
  obtain ⟨fault, hfault⟩ := ofFile_of_not_isText (by simpa using hbad)
  refine ⟨before, first, after, fault, rfl, htexts, hfault, ?_⟩
  rw [readFiles_append [] [] _ htexts]
  simp only [readFiles, hfault, List.append_nil, List.reverse_reverse]

/-- The names of files that should hold levels are those that a pattern fits. -/
theorem isFileName_iff {name : String} :
    isFileName name = true ↔ ∃ middle, name.toList = fileStart ++ middle ++ fileEnd := by
  rw [isFileName]
  constructor
  · intro h
    split at h
    · rename_i rest hstart
      obtain ⟨middle, rfl⟩ := List.isSuffixOf_iff_suffix.1 h
      exact ⟨middle, by rw [Text.afterWord?_eq_some_iff.1 hstart, List.append_assoc]⟩
    · cases h
  · rintro ⟨middle, hname⟩
    rw [List.append_assoc] at hname
    rw [Text.afterWord?_eq_some_iff.2 hname]
    exact List.isSuffixOf_iff_suffix.2 (List.suffix_append middle fileEnd)

theorem mem_filesAmong_iff {names : List String} :
    path ∈ filesAmong folder names ↔
      ∃ name, isFileName name = true ∧ name ∈ names ∧ folder.child name = path := by
  rw [filesAmong, List.mem_map]
  simp only [List.mem_mergeSort, List.mem_filter, and_left_comm, and_assoc]

theorem nodup_filesAmong {names : List String} (hnames : names.Nodup) :
    (filesAmong folder names).Nodup := by
  apply List.Nodup.map
  · intro one other hchild
    exact (List.append_singleton_inj.1 (congrArg Path.parts hchild)).2
  · exact (List.mergeSort_perm _ _).nodup_iff.2 (hnames.filter _)

theorem levelFiles_eq {names : List String} (hnames : disk.names folder = .ok names) :
    disk.levelFiles folder = filesAmong folder names := by
  rw [Disk.levelFiles, hnames]

theorem isText_of_names {names : List String} (hnames : disk.names folder = .ok names)
    (htexts : ∀ name ∈ names, isFileName name = true → disk.isText (folder.child name)) :
    ∀ path ∈ disk.levelFiles folder, disk.isText path := by
  intro path hpath
  rw [levelFiles_eq hnames, mem_filesAmong_iff] at hpath
  obtain ⟨name, hname, hmem, rfl⟩ := hpath
  exact htexts name hmem hname

theorem ofFolder_of_texts {names : List String} (hnames : disk.names folder = .ok names)
    (htexts : ∀ path ∈ disk.levelFiles folder, disk.isText path) :
    ofFolder disk folder =
      ⟨.ok (((disk.levelFiles folder).filterMap (inFile? disk)).mergeSort
          fun left right => left.number ≤ right.number),
        (disk.levelFiles folder).filterMap (warning? disk) ++
          [loadedRecord folder ((disk.levelFiles folder).filterMap (inFile? disk)).length]⟩ := by
  rw [levelFiles_eq hnames] at htexts ⊢
  simp only [ofFolder, hnames, readFiles_of_texts htexts, List.length_mergeSort]

theorem ofFolder_of_not_text {names : List String} (hnames : disk.names folder = .ok names)
    (hbad : ∃ path ∈ disk.levelFiles folder, disk.isText path = false) :
    ∃ before path after fault, disk.levelFiles folder = before ++ path :: after ∧
      (∀ earlier ∈ before, disk.isText earlier) ∧
      ofFile disk path = .error (.read (.decode fault)) ∧
      ofFolder disk folder = ⟨.error (.decode fault), before.filterMap (warning? disk)⟩ := by
  obtain ⟨before, path, after, fault, hfiles, htexts, hfault, hread⟩ := readFiles_of_not_text hbad
  refine ⟨before, path, after, fault, hfiles, htexts, hfault, ?_⟩
  rw [levelFiles_eq hnames] at hread
  simp only [ofFolder, hnames, hread]

section

variable {location : Location}

theorem nodup_levelFiles (hfolder : disk.folder? folder = .ok (some location)) :
    (disk.levelFiles folder).Nodup := by
  have hnames := Disk.names_eq hfolder
  rw [levelFiles_eq hnames]
  exact nodup_filesAmong (Disk.names_nodup hfolder hnames)

/-- The files of a folder that should hold levels are all its entries with such a name. -/
theorem mem_levelFiles_iff (hfolder : disk.folder? folder = .ok (some location)) :
    path ∈ disk.levelFiles folder ↔
      ∃ name, isFileName name = true ∧ disk.entry? (location ++ [name]) ≠ none ∧
        folder.child name = path := by
  have hnames := Disk.names_eq hfolder
  rw [levelFiles_eq hnames, mem_filesAmong_iff]
  simp only [Disk.mem_names_iff hfolder hnames]

/-- What a folder yields, from the files with the names of level files in it.  If all that
can be read hold texts, then those that draw levels are all there, and each of the others is
skipped with one warning.  Otherwise the first that holds no text is the end of it. -/
theorem skips_bad_files (hfolder : disk.folder? folder = .ok (some location)) :
    (disk.levelFiles folder).Nodup ∧
    (∀ path, path ∈ disk.levelFiles folder ↔
      ∃ name middle, name.toList = "level".toList ++ middle ++ ".txt".toList ∧
        disk.entry? (location ++ [name]) ≠ none ∧ folder.child name = path) ∧
    ((∀ path ∈ disk.levelFiles folder, disk.isText path) →
      ∃ levels, ofFolder disk folder =
          ⟨.ok levels, (disk.levelFiles folder).filterMap (warning? disk) ++
            [loadedRecord folder levels.length]⟩ ∧
        levels.Perm ((disk.levelFiles folder).filterMap (inFile? disk))) ∧
    ((∃ path ∈ disk.levelFiles folder, disk.isText path = false) →
      ∃ before path after fault, disk.levelFiles folder = before ++ path :: after ∧
        (∀ earlier ∈ before, disk.isText earlier) ∧
        ofFile disk path = .error (.read (.decode fault)) ∧
        ofFolder disk folder = ⟨.error (.decode fault), before.filterMap (warning? disk)⟩) := by
  refine ⟨nodup_levelFiles hfolder, fun path => ?_, fun htexts => ?_, fun hbad => ?_⟩
  · rw [mem_levelFiles_iff hfolder]
    simp only [isFileName_iff, exists_and_right]
    rfl
  · rw [ofFolder_of_texts (Disk.names_eq hfolder) htexts]
    refine ⟨_, by rw [List.length_mergeSort], List.mergeSort_perm _ _⟩
  · exact ofFolder_of_not_text (Disk.names_eq hfolder) hbad

end

end Level

/-- A disk with a folder and the given files in it. -/
def Disk.shelf (files : List (String × Entry)) : Disk :=
  files.foldl (fun disk file => disk.put ["shelf", file.1] file.2)
    ((Disk.blank [] []).put ["shelf"] .folder)

/-- The bytes of a drawn creek. -/
def Level.creekBytes : Content :=
  .bytes (creek.map fun char => char.val.toUInt8)

namespace Level

/-- A text that draws nothing and a folder with the name of a file do not keep the creek
from being read, nor do bytes in a file with another name. -/
theorem skips_bad_files_shelf :
    ∃ disk : Disk, disk = .shelf [("level1.txt", .file (.bytes [0x65])),
        ("level2.txt", .file creekBytes), ("level3.txt", .folder),
        ("notes.txt", .file (.bytes [0xFF]))] ∧
      disk.folder? ⟨"", ["shelf"]⟩ = .ok (some ["shelf"]) ∧
      (∀ path ∈ disk.levelFiles ⟨"", ["shelf"]⟩, disk.isText path) ∧
      ∃ levels level, (ofFolder disk ⟨"", ["shelf"]⟩).levels = .ok levels ∧
        inFile? disk ⟨"", ["shelf", "level2.txt"]⟩ = some level ∧ level ∈ levels := by
  refine ⟨_, rfl, ?_⟩
  generalize hdisk : Disk.shelf _ = disk
  have hfolder : disk.folder? ⟨"", ["shelf"]⟩ = .ok (some ["shelf"]) := by
    rw [← hdisk]
    decide +kernel
  have hnames : disk.names ⟨"", ["shelf"]⟩ =
      .ok ["notes.txt", "level3.txt", "level2.txt", "level1.txt"] := by
    rw [← hdisk]
    decide +kernel
  have htexts := isText_of_names hnames (by
    rw [← hdisk]
    decide +kernel)
  obtain ⟨level, hlevel⟩ : ∃ level, inFile? disk ⟨"", ["shelf", "level2.txt"]⟩ = some level := by
    rw [← Option.isSome_iff_exists, ← hdisk]
    decide +kernel
  obtain ⟨-, hfiles, hskips, -⟩ := skips_bad_files hfolder
  obtain ⟨levels, hlevels, hperm⟩ := hskips htexts
  refine ⟨hfolder, htexts, levels, level, by rw [hlevels], hlevel, ?_⟩
  rw [hperm.mem_iff, List.mem_filterMap]
  refine ⟨_, (hfiles _).2 ⟨"level2.txt", ['2'], rfl, ?_, rfl⟩, hlevel⟩
  rw [← hdisk]
  decide +kernel

/-- One byte that begins no character keeps the creek behind it from being read. -/
theorem byte_hides_creek :
    ∃ disk : Disk, disk = .shelf [("level1.txt", .file (.bytes [0xFF])),
        ("level2.txt", .file creekBytes)] ∧
      disk.folder? ⟨"", ["shelf"]⟩ = .ok (some ["shelf"]) ∧
      (inFile? disk ⟨"", ["shelf", "level2.txt"]⟩).isSome ∧
      ¬∃ levels, (ofFolder disk ⟨"", ["shelf"]⟩).levels = .ok levels := by
  refine ⟨_, rfl, by decide +kernel, by decide +kernel, ?_⟩
  generalize hdisk : Disk.shelf _ = disk
  have hnames : disk.names ⟨"", ["shelf"]⟩ = .ok ["level2.txt", "level1.txt"] := by
    rw [← hdisk]
    decide +kernel
  have hfile : Path.child ⟨"", ["shelf"]⟩ "level1.txt" ∈ disk.levelFiles ⟨"", ["shelf"]⟩ := by
    rw [levelFiles_eq hnames, mem_filesAmong_iff]
    exact ⟨"level1.txt", by decide +kernel, by decide, rfl⟩
  have hbad : disk.isText (Path.child ⟨"", ["shelf"]⟩ "level1.txt") = false := by
    rw [← hdisk]
    decide +kernel
  obtain ⟨before, path, after, fault, -, -, -, hstops⟩ :=
    ofFolder_of_not_text hnames ⟨_, hfile, hbad⟩
  rintro ⟨levels, hlevels⟩
  rw [hstops] at hlevels
  cases hlevels

end Level

end RiverPuzzle
