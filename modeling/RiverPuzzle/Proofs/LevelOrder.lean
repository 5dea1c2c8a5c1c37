import Mathlib.Data.List.Basic
import RiverPuzzle.Proofs.LevelFolder
import RiverPuzzle.Proofs.MadeFolder

/-!
# The order of levels

The files of a folder are read by name, and their levels sorted by number.  This module says in
which order the levels and the warnings come then.  The main statement: levels with one number
come in the order of their files, a warning comes for every other file in the same order, and
nothing else in the folder has any effect.
-/

namespace RiverPuzzle

section

variable {α : Type} {key : α → Int}

theorem key_trans (one two three : α) (h : decide (key one ≤ key two) = true)
    (hthree : decide (key two ≤ key three) = true) : decide (key one ≤ key three) = true := by
  rw [decide_eq_true_eq] at *
  exact Int.le_trans h hthree

theorem key_total (one two : α) :
    (decide (key one ≤ key two) || decide (key two ≤ key one)) = true := by
  simpa using Int.le_total (key one) (key two)

/-- A stable sort leaves the items with one key in their order. -/
theorem filter_mergeSort_key (items : List α) (value : Int) :
    ((items.mergeSort fun one other => key one ≤ key other).filter fun item => key item = value) =
      items.filter fun item => key item = value := by
  have heven : (items.filter fun item => key item = value).Pairwise fun one other =>
      decide (key one ≤ key other) = true := by
    apply List.pairwise_of_forall_mem_list
    intro one hone other hother
    simp only [List.mem_filter, decide_eq_true_eq] at hone hother
    exact decide_eq_true (Int.le_of_eq (hone.2.trans hother.2.symm))
  have hsub := (List.sublist_mergeSort key_trans key_total heven List.filter_sublist).filter
    fun item => key item = value
  have hperm := (List.mergeSort_perm items fun one other => key one ≤ key other).filter
    fun item => key item = value
  rw [List.filter_filter] at hsub
  simp only [Bool.and_self] at hsub
  exact (hsub.eq_of_length hperm.length_eq.symm).symm

/-- A stable sort leaves the items in the order of their keys, and those with one key in the
order in which they were. -/
theorem pairwise_mergeSort_key {order : α → α → Prop} {items : List α}
    (hitems : items.Pairwise order) :
    (items.mergeSort fun one other => key one ≤ key other).Pairwise fun one other =>
      key one < key other ∨ key one = key other ∧ order one other := by
  rw [List.pairwise_iff_forall_sublist] at hitems ⊢
  intro one other hsub
  have hsorted := List.pairwise_iff_forall_sublist.1
    (List.pairwise_mergeSort key_trans key_total items) hsub
  rcases Int.lt_or_eq_of_le (of_decide_eq_true hsorted) with hlt | heq
  · exact .inl hlt
  · refine .inr ⟨heq, hitems ?_⟩
    have hfilter := hsub.filter fun item => key item = key other
    rw [filter_mergeSort_key] at hfilter
    simp only [List.filter_cons, heq, decide_true, if_true, List.filter_nil] at hfilter
    exact hfilter.trans List.filter_sublist

end

namespace Disk

variable {disk other : Disk} {folder : Path} {location place : Location}

/-- The path is that of an entry of a folder whose name starts with `level` and ends with
`.txt`. -/
def Offers (disk : Disk) (folder path : Path) : Prop :=
  ∃ location name middle, disk.folder? folder = .ok (some location) ∧
    disk.entry? (location ++ [name]) ≠ none ∧
    name.toList = "level".toList ++ middle ++ ".txt".toList ∧ path = folder.child name

/-- The path of an entry of a folder leads to the entry. -/
theorem locate_child {name : String} (hfolder : disk.folder? folder = .ok (some location))
    (hup : name ≠ "..") :
    disk.locate (folder.child name) =
      if (folder.child name).isLong = true ∨ Path.isLongName name = true then .error .tooLong
      else if disk.entry? (location ++ [name]) = none then .error .missing
      else .ok (location ++ [name]) := by
  obtain ⟨-, hlocate, hentry⟩ := folder?_eq_some_iff.1 hfolder
  have hfollow := (locate_eq_ok_iff.1 hlocate).2
  have horigin : disk.origin (folder.child name) = disk.origin folder := rfl
  have hparts : (folder.child name).parts = folder.parts ++ [name] := rfl
  rw [locate, horigin, hparts, follow_append hfollow hentry]
  by_cases hlong : (folder.child name).isLong = true
  · rw [if_pos hlong, if_pos (.inl hlong)]
  · by_cases hname : Path.isLongName name = true
    · rw [if_neg hlong, if_pos (.inr hname)]
      simp [follow, hname]
    · rw [if_neg hlong, if_neg (by simp [hlong, hname]), follow_name _ _ hup hname]
      rcases disk.entry? (location ++ [name]) with _ | _ | content <;> simp [follow]

/-- What is read at the path of an entry of a folder hangs on the entry only. -/
theorem read_child_congr {name : String} (hfolder : disk.folder? folder = .ok (some location))
    (hother : other.folder? folder = .ok (some place)) (hup : name ≠ "..")
    (hsame : other.entry? (place ++ [name]) = disk.entry? (location ++ [name])) :
    other.read (folder.child name) = disk.read (folder.child name) := by
  rw [read, read, locate_child hfolder hup, locate_child hother hup, hsame]
  by_cases hlong : (folder.child name).isLong = true ∨ Path.isLongName name = true
  · rw [if_pos hlong, if_pos hlong]
  · by_cases hnone : disk.entry? (location ++ [name]) = none
    · rw [if_neg hlong, if_neg hlong, if_pos hnone, if_pos hnone]
    · rw [if_neg hlong, if_neg hlong, if_neg hnone, if_neg hnone]
      simp only [hsame]

end Disk

namespace Level

/-- Why an entry is skipped: it cannot be read, or what is read draws no level. -/
inductive Skips (disk : Disk) (path : Path) : String → Prop
  | unread {fault : DiskFault} (hread : disk.readText path = .error (.disk fault)) :
      Skips disk path fault.message
  | malformed {text : List Char} {fault : LevelFault} (hread : disk.readText path = .ok text)
      (hdraws : ofText text = .error fault) : Skips disk path fault.message

variable {disk other : Disk} {path folder : Path} {location place : Location} {names : List String}

theorem child_lt_child {one other : String} (h : one < other) :
    (folder.child one).parts < (folder.child other).parts :=
  List.append_left_lt (List.Lex.rel h)

theorem not_lt_eq_true_iff {left right : String} :
    (!decide (right < left)) = true ↔ left ≤ right := by
  rw [Bool.not_eq_true', decide_eq_false_iff_not, String.not_lt]

/-- The names of files are sorted by an order of texts. -/
theorem pairwise_mergeSort_names (names : List String) :
    (names.mergeSort fun left right => !(right < left)).Pairwise fun left right => left ≤ right := by
  have htrans (one two three : String) : (!decide (two < one)) = true →
      (!decide (three < two)) = true → (!decide (three < one)) = true := by
    simp only [not_lt_eq_true_iff]
    exact String.le_trans
  have htotal (one two : String) : ((!decide (two < one)) || !decide (one < two)) = true := by
    simp only [Bool.or_eq_true, not_lt_eq_true_iff]
    exact String.le_total one two
  have hsorted := List.pairwise_mergeSort htrans htotal names
  simpa only [not_lt_eq_true_iff] using hsorted

/-- The files of a folder are read in the order of their paths. -/
theorem pairwise_filesAmong (hnames : names.Nodup) :
    (filesAmong folder names).Pairwise fun one other => one.parts < other.parts := by
  have hsorted := pairwise_mergeSort_names (names.filter isFileName)
  have hnodup := (List.mergeSort_perm (names.filter isFileName)
    fun left right => !(right < left)).nodup_iff.2 (hnames.filter _)
  rw [filesAmong, List.pairwise_map]
  refine (hsorted.and hnodup).imp fun {one other} h => child_lt_child ?_
  exact String.not_le.1 fun hle => h.2 (String.le_antisymm h.1 hle)

theorem pairwise_levelFiles (disk : Disk) (folder : Path) :
    (disk.levelFiles folder).Pairwise fun one other => one.parts < other.parts := by
  rcases hfolder : disk.folder? folder with error | _ | location
  · simp [Disk.levelFiles, Disk.names, hfolder]
  · simp [Disk.levelFiles, Disk.names, hfolder, filesAmong]
  · have hnames := Disk.names_eq hfolder
    rw [levelFiles_eq hnames]
    exact pairwise_filesAmong (Disk.names_nodup hfolder hnames)

theorem mem_levelFiles_iff_offers : path ∈ disk.levelFiles folder ↔ disk.Offers folder path := by
  unfold Disk.Offers
  rcases hfolder : disk.folder? folder with error | _ | location
  · simp [Disk.levelFiles, Disk.names, hfolder]
  · simp [Disk.levelFiles, Disk.names, hfolder, filesAmong]
  · rw [mem_levelFiles_iff hfolder]
    constructor
    · rintro ⟨name, hname, hentry, rfl⟩
      obtain ⟨middle, hmiddle⟩ := isFileName_iff.1 hname
      exact ⟨location, name, middle, rfl, hentry, hmiddle, rfl⟩
    · rintro ⟨place, name, middle, ⟨rfl⟩, hentry, hmiddle, rfl⟩
      exact ⟨name, isFileName_iff.2 ⟨middle, hmiddle⟩, hentry, rfl⟩

/-- A folder yields levels only if all the files that can be read hold texts. -/
theorem isText_of_levels {levels : List Level} (h : (ofFolder disk folder).levels = .ok levels) :
    ∃ names, disk.names folder = .ok names ∧ ∀ path ∈ disk.levelFiles folder, disk.isText path := by
  rcases hnames : disk.names folder with fault | names
  · rw [ofFolder, hnames] at h
    cases h
  · refine ⟨names, rfl, fun path hpath => ?_⟩
    by_contra hbad
    obtain ⟨before, bad, after, fault, -, -, -, hstops⟩ :=
      ofFolder_of_not_text hnames ⟨path, hpath, Bool.eq_false_iff.2 hbad⟩
    rw [hstops] at h
    cases h

/-- The levels in the files at some paths, each behind its path. -/
def found (disk : Disk) (paths : List Path) : List (Path × Level) :=
  paths.filterMap fun path => (inFile? disk path).map fun level => (path, level)

/-- Why the files at some paths are skipped, each reason behind its path. -/
def missed (disk : Disk) (paths : List Path) : List (Path × String) :=
  paths.filterMap fun path =>
    match ofFile disk path with
    | .ok _ => none
    | .error fault => some (path, fault.message)

section

variable {paths : List Path} {level : Level} {reason : String}

/-- The levels of files, sorted by number, with the paths of the files and without. -/
theorem map_mergeSort_found (disk : Disk) (paths : List Path) :
    ((found disk paths).mergeSort fun one other => one.2.number ≤ other.2.number).map Prod.snd =
      (paths.filterMap (inFile? disk)).mergeSort fun left right => left.number ≤ right.number := by
  have hmap : (found disk paths).map Prod.snd = paths.filterMap (inFile? disk) := by
    rw [found, List.map_filterMap]
    congr
    funext path
    cases inFile? disk path <;> rfl
  rw [← hmap]
  exact List.map_mergeSort fun _ _ _ _ => rfl

theorem map_missed (disk : Disk) (paths : List Path) :
    ((missed disk paths).map fun miss => skipRecord miss.1 miss.2) =
      paths.filterMap (warning? disk) := by
  rw [missed, List.map_filterMap]
  congr
  funext path
  rw [warning?]
  cases ofFile disk path <;> rfl

theorem ofFile_eq_ok_iff :
    ofFile disk path = .ok level ↔ ∃ text, disk.readText path = .ok text ∧ ofText text = .ok level := by
  unfold ofFile
  rcases disk.readText path with fault | text
  · simp
  · cases hlevel : ofText text <;> simp [hlevel]

theorem skips_iff (htext : disk.isText path) :
    Skips disk path reason ↔ ∃ fault, ofFile disk path = .error fault ∧ fault.message = reason := by
  unfold Disk.isText at htext
  unfold ofFile
  constructor
  · intro h
    cases h with
    | unread hread => exact ⟨.read _, by rw [hread], rfl⟩
    | malformed hread hdraws => exact ⟨.format _, by simp only [hread, hdraws], rfl⟩
  · rintro ⟨fault, hfile, rfl⟩
    split at hfile
    · rename_i stop hread
      cases hfile
      rcases stop with stop | stop
      · exact .unread hread
      · rw [hread] at htext
        cases htext
    · rename_i text hread
      split at hfile
      · rename_i stop hdraws
        cases hfile
        exact .malformed hread hdraws
      · cases hfile

theorem mem_found_iff :
    (path, level) ∈ found disk paths ↔ path ∈ paths ∧ ofFile disk path = .ok level := by
  rw [found, List.mem_filterMap]
  constructor
  · rintro ⟨file, hfile, hmap⟩
    obtain ⟨held, hheld, heq⟩ := Option.map_eq_some_iff.1 hmap
    cases heq
    exact ⟨hfile, ofFile_of_inFile? hheld⟩
  · rintro ⟨hpath, hlevel⟩
    exact ⟨path, hpath, by rw [inFile?, hlevel]; rfl⟩

theorem mem_missed_iff :
    (path, reason) ∈ missed disk paths ↔
      path ∈ paths ∧ ∃ fault, ofFile disk path = .error fault ∧ fault.message = reason := by
  rw [missed, List.mem_filterMap]
  constructor
  · rintro ⟨file, hfile, hmap⟩
    split at hmap
    · cases hmap
    · rename_i fault hfault
      cases hmap
      exact ⟨hfile, fault, hfault, rfl⟩
  · rintro ⟨hpath, fault, hfault, rfl⟩
    exact ⟨path, hpath, by rw [hfault]⟩

/-- The levels of a folder are sorted by number, and those with one number by the paths of
their files. -/
theorem pairwise_found (hpaths : paths.Pairwise fun one other => one.parts < other.parts) :
    ((found disk paths).mergeSort fun one other => one.2.number ≤ other.2.number).Pairwise
      fun one other => one.2.number < other.2.number ∨
        one.2.number = other.2.number ∧ one.1.parts < other.1.parts := by
  apply pairwise_mergeSort_key
  refine hpaths.filterMap _ fun one other hlt held hheld later hlater => ?_
  obtain ⟨level, -, rfl⟩ := Option.map_eq_some_iff.1 hheld
  obtain ⟨next, -, rfl⟩ := Option.map_eq_some_iff.1 hlater
  exact hlt

theorem pairwise_missed (hpaths : paths.Pairwise fun one other => one.parts < other.parts) :
    (missed disk paths).Pairwise fun one other => one.1.parts < other.1.parts := by
  refine hpaths.filterMap _ fun one other hlt miss hmiss later hlater => ?_
  split at hmiss
  · cases hmiss
  · split at hlater
    · cases hlater
    · cases hmiss
      cases hlater
      exact hlt

/-- What a folder yields, with the paths of the files behind it. -/
theorem ofFolder_of_levels {levels : List Level} (h : (ofFolder disk folder).levels = .ok levels) :
    levels = ((found disk (disk.levelFiles folder)).mergeSort
        fun one other => one.2.number ≤ other.2.number).map Prod.snd ∧
      (ofFolder disk folder).log =
        ((missed disk (disk.levelFiles folder)).map fun miss => skipRecord miss.1 miss.2) ++
          [loadedRecord folder levels.length] := by
  obtain ⟨names, hnames, htexts⟩ := isText_of_levels h
  have hfolder := ofFolder_of_texts hnames htexts
  rw [hfolder] at h ⊢
  cases h
  rw [map_mergeSort_found, map_missed, List.length_mergeSort]
  exact ⟨rfl, rfl⟩

theorem isFileName_ne_up {name : String} (h : isFileName name = true) : name ≠ ".." := by
  rintro rfl
  revert h
  decide

theorem readFiles_congr (hsame : ∀ path ∈ paths, ofFile other path = ofFile disk path)
    (levels : List Level) (log : List LogRecord) :
    readFiles other levels log paths = readFiles disk levels log paths := by
  induction paths generalizing levels log with
  | nil => rfl
  | cons path rest ih =>
      have hrest := fun later hlater => hsame later (List.mem_cons_of_mem path hlater)
      rw [readFiles, readFiles, hsame path List.mem_cons_self]
      split
      · exact ih hrest _ _
      · exact ih hrest _ _
      · exact ih hrest _ _
      · rfl

/-- The same entries that should hold levels make the same files. -/
theorem filesAmong_congr (folder : Path) {names others : List String} (hnames : names.Nodup)
    (hothers : others.Nodup)
    (hsame : ∀ name, isFileName name = true → (name ∈ others ↔ name ∈ names)) :
    filesAmong folder others = filesAmong folder names := by
  have hfilter : (others.filter isFileName).Perm (names.filter isFileName) := by
    rw [List.perm_ext_iff_of_nodup (hothers.filter _) (hnames.filter _)]
    intro name
    simp only [List.mem_filter]
    exact and_congr_left (hsame name)
  rw [filesAmong, filesAmong, List.Perm.eq_of_pairwise
    (fun _ _ _ _ hle hge => String.le_antisymm hle hge) (pairwise_mergeSort_names _)
    (pairwise_mergeSort_names _)
    ((List.mergeSort_perm _ _).trans (hfilter.trans (List.mergeSort_perm _ _).symm))]

/-- The entries of a folder that have not the name of a level file have no effect. -/
theorem ofFolder_congr (hfolder : disk.folder? folder = .ok (some location))
    (hother : other.folder? folder = .ok (some place))
    (hsame : ∀ name, isFileName name = true →
      other.entry? (place ++ [name]) = disk.entry? (location ++ [name])) :
    ofFolder other folder = ofFolder disk folder := by
  have hnames := Disk.names_eq hfolder
  have hothers := Disk.names_eq hother
  have hfiles := filesAmong_congr folder (Disk.names_nodup hfolder hnames)
    (Disk.names_nodup hother hothers) fun name hname => by
      rw [Disk.mem_names_iff hfolder hnames, Disk.mem_names_iff hother hothers, hsame name hname]
  have hfile : ∀ path ∈ disk.levelFiles folder, ofFile other path = ofFile disk path := by
    intro path hpath
    obtain ⟨name, hname, -, rfl⟩ := (mem_levelFiles_iff hfolder).1 hpath
    have hread := Disk.read_child_congr hfolder hother (isFileName_ne_up hname) (hsame name hname)
    rw [ofFile, ofFile, Disk.readText, Disk.readText, hread]
  rw [levelFiles_eq hnames] at hfile
  simp only [ofFolder, hnames, hothers, hfiles, readFiles_congr hfile [] []]

end

/-- What a folder that yields levels yields.  The levels are those drawn in its files, sorted
by number and then by the paths of the files.  The log names the other files in the order of
their paths, and then says how many levels there are.  Both hang on the entries with the names
of level files only. -/
theorem levels_in_order {levels : List Level}
    (hlevels : (ofFolder disk folder).levels = .ok levels) :
    (∃ (loaded : List (Path × Level)) (skipped : List (Path × String)),
      levels = loaded.map Prod.snd ∧
      (∀ path level, (path, level) ∈ loaded ↔ disk.Offers folder path ∧
        ∃ text, disk.readText path = .ok text ∧ ofText text = .ok level) ∧
      loaded.Pairwise (fun one other => one.2.number < other.2.number ∨
        one.2.number = other.2.number ∧ one.1.parts < other.1.parts) ∧
      (ofFolder disk folder).log = (skipped.map fun skip => skipRecord skip.1 skip.2) ++
        [loadedRecord folder levels.length] ∧
      (∀ path reason, (path, reason) ∈ skipped ↔
        disk.Offers folder path ∧ Skips disk path reason) ∧
      skipped.Pairwise (fun one other => one.1.parts < other.1.parts) ∧
      ∀ path, disk.Offers folder path →
        (∃ level, (path, level) ∈ loaded) ∨ ∃ reason, (path, reason) ∈ skipped) ∧
    ∀ (other : Disk) (location place : Location), disk.folder? folder = .ok (some location) →
      other.folder? folder = .ok (some place) →
      (∀ name middle, name.toList = "level".toList ++ middle ++ ".txt".toList →
        other.entry? (place ++ [name]) = disk.entry? (location ++ [name])) →
      ofFolder other folder = ofFolder disk folder := by
  obtain ⟨-, -, htexts⟩ := isText_of_levels hlevels
  obtain ⟨hloaded, hlog⟩ := ofFolder_of_levels hlevels
  have hfound (path : Path) (level : Level) :
      (path, level) ∈ (found disk (disk.levelFiles folder)).mergeSort
          (fun one other => one.2.number ≤ other.2.number) ↔
        disk.Offers folder path ∧
          ∃ text, disk.readText path = .ok text ∧ ofText text = .ok level := by
    rw [List.mem_mergeSort, mem_found_iff, mem_levelFiles_iff_offers, ofFile_eq_ok_iff]
  have hmissed (path : Path) (reason : String) :
      (path, reason) ∈ missed disk (disk.levelFiles folder) ↔
        disk.Offers folder path ∧ Skips disk path reason := by
    rw [mem_missed_iff, mem_levelFiles_iff_offers]
    refine and_congr_right fun hoffers => ?_
    rw [skips_iff (htexts path (mem_levelFiles_iff_offers.2 hoffers))]
  have hsorted := pairwise_levelFiles disk folder
  refine ⟨⟨_, _, hloaded, hfound, pairwise_found hsorted, hlog, hmissed, pairwise_missed hsorted,
    fun path hoffers => ?_⟩, fun other location place hfolder hother hsame => ?_⟩
  · have hfile := mem_levelFiles_iff_offers.2 hoffers
    cases hlevel : ofFile disk path with
    | ok level =>
        exact .inl ⟨level, List.mem_mergeSort.2 (mem_found_iff.2 ⟨hfile, hlevel⟩)⟩
    | error fault =>
        exact .inr ⟨fault.message, mem_missed_iff.2 ⟨hfile, fault, hlevel, rfl⟩⟩
  · refine ofFolder_congr hfolder hother fun name hname => ?_
    obtain ⟨middle, hmiddle⟩ := isFileName_iff.1 hname
    exact hsame name middle hmiddle

/-- Two creeks with one number are both there, past a text that draws nothing and a folder with
the name of a file. -/
theorem levels_in_order_shelf :
    ∃ disk : Disk, disk = .shelf [("level2.txt", .file creekBytes),
        ("level10.txt", .file creekBytes), ("level1.txt", .file (.bytes [0x65])),
        ("level3.txt", .folder), ("notes.txt", .file (.bytes [0xFF]))] ∧
      ∃ (levels : List Level) (loaded : List (Path × Level)) (skipped : List (Path × String)),
        (ofFolder disk ⟨"", ["shelf"]⟩).levels = .ok levels ∧ levels = loaded.map Prod.snd ∧
        loaded.Pairwise (fun one other => one.2.number < other.2.number ∨
          one.2.number = other.2.number ∧ one.1.parts < other.1.parts) ∧
        (∀ name ∈ ["level2.txt", "level10.txt"],
          ∃ level, (Path.child ⟨"", ["shelf"]⟩ name, level) ∈ loaded) ∧
        ∀ name ∈ ["level1.txt", "level3.txt"],
          ∃ reason, (Path.child ⟨"", ["shelf"]⟩ name, reason) ∈ skipped := by
  refine ⟨_, rfl, ?_⟩
  generalize hdisk : Disk.shelf _ = disk
  have hfolder : disk.folder? ⟨"", ["shelf"]⟩ = .ok (some ["shelf"]) := by
    rw [← hdisk]
    decide +kernel
  have hnames : disk.names ⟨"", ["shelf"]⟩ =
      .ok ["notes.txt", "level3.txt", "level1.txt", "level10.txt", "level2.txt"] := by
    rw [← hdisk]
    decide +kernel
  have htexts := isText_of_names hnames (by
    rw [← hdisk]
    decide +kernel)
  have hoffers : ∀ name ∈ ["level2.txt", "level10.txt"] ++ ["level1.txt", "level3.txt"],
      disk.Offers ⟨"", ["shelf"]⟩ (Path.child ⟨"", ["shelf"]⟩ name) := by
    intro name hname
    rw [← mem_levelFiles_iff_offers, levelFiles_eq hnames, mem_filesAmong_iff]
    refine ⟨name, ?_, ?_, rfl⟩ <;> revert name <;> decide +kernel
  have hdraws : ∀ name ∈ ["level2.txt", "level10.txt"],
      (inFile? disk (Path.child ⟨"", ["shelf"]⟩ name)).isSome := by
    rw [← hdisk]
    decide +kernel
  have hbad : ∀ name ∈ ["level1.txt", "level3.txt"],
      inFile? disk (Path.child ⟨"", ["shelf"]⟩ name) = none := by
    rw [← hdisk]
    decide +kernel
  have hlevels := congrArg LevelFolder.levels (ofFolder_of_texts hnames htexts)
  obtain ⟨⟨loaded, skipped, hloaded, hmem, hsorted, -, -, -, hall⟩, -⟩ := levels_in_order hlevels
  refine ⟨_, loaded, skipped, hlevels, hloaded, hsorted, fun name hname => ?_, fun name hname => ?_⟩
  · obtain ⟨level, hlevel⟩ := Option.isSome_iff_exists.1 (hdraws name hname)
    exact ⟨level, (hmem _ _).2 ⟨hoffers name (List.mem_append_left _ hname),
      ofFile_eq_ok_iff.1 (ofFile_of_inFile? hlevel)⟩⟩
  · refine (hall _ (hoffers name (List.mem_append_right _ hname))).resolve_left ?_
    rintro ⟨level, hlevel⟩
    have hnone := hbad name hname
    rw [inFile?, ofFile_eq_ok_iff.2 ((hmem _ _).1 hlevel).2] at hnone
    cases hnone

end Level

end RiverPuzzle
