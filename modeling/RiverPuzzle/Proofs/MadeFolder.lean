import RiverPuzzle.Proofs.NewFile
import RiverPuzzle.Result

/-!
# Folders that have been made

Making a folder and those above it adds folders where nothing lay and changes nothing else.
The main statements: a folder that has been made is there, stays there when files are put
on the disk, and is not made again.
-/

namespace RiverPuzzle

namespace Disk

variable {disk other ready made : Disk} {path : Path} {folder mid location : Location}
  {names : List String}

/-- Names that lead to a folder lead on from there. -/
theorem follow_append (h : disk.follow folder names = .ok mid)
    (hmid : disk.entry? mid = some .folder) (more : List String) :
    disk.follow folder (names ++ more) = disk.follow mid more := by
  fun_induction Disk.follow disk folder names with
  | case1 folder =>
      cases h
      rfl
  | case2 folder rest ih =>
      rw [List.cons_append, follow]
      exact ih h
  | case3 folder name rest hname hlong => cases h
  | case4 folder name rest hname hlong next hnext => cases h
  | case5 folder name rest hname hlong next hnext ih =>
      have hfolder : disk.entry? (folder ++ [name]) = some .folder := hnext
      rw [List.cons_append, follow_name _ folder hname hlong, hfolder]
      exact ih h
  | case6 folder name rest hname hlong next content hnext hrest =>
      rw [← Except.ok.inj h, show disk.entry? next = some (.file content) from hnext] at hmid
      cases hmid
  | case7 folder name rest hname hlong next content hnext hrest => cases h

/-- Names that lead nowhere lead nowhere with more names behind them. -/
theorem follow_append_missing (h : disk.follow folder names = .error .missing)
    (more : List String) : disk.follow folder (names ++ more) = .error .missing := by
  fun_induction Disk.follow disk folder names with
  | case1 folder => cases h
  | case2 folder rest ih =>
      rw [List.cons_append, follow]
      exact ih h
  | case3 folder name rest hname hlong => cases h
  | case4 folder name rest hname hlong next hnext =>
      have hnone : disk.entry? (folder ++ [name]) = none := hnext
      rw [List.cons_append, follow_name _ folder hname hlong, hnone]
  | case5 folder name rest hname hlong next hnext ih =>
      have hfolder : disk.entry? (folder ++ [name]) = some .folder := hnext
      rw [List.cons_append, follow_name _ folder hname hlong, hfolder]
      exact ih h
  | case6 folder name rest hname hlong next content hnext hrest => cases h
  | case7 folder name rest hname hlong next content hnext hrest => cases h

/-- Everything on a disk is on another one as well, at the same locations. -/
def Within (disk other : Disk) : Prop :=
  ∀ location entry, disk.entry? location = some entry → other.entry? location = some entry

/-- Where names lead, they lead with more on the disk. -/
theorem follow_within (hwithin : disk.Within other) (h : disk.follow folder names = .ok mid) :
    other.follow folder names = .ok mid := by
  fun_induction Disk.follow disk folder names with
  | case1 folder => exact h
  | case2 folder rest ih =>
      rw [follow]
      exact ih h
  | case3 folder name rest hname hlong => cases h
  | case4 folder name rest hname hlong next hnext => cases h
  | case5 folder name rest hname hlong next hnext ih =>
      have hfolder : other.entry? (folder ++ [name]) = some .folder := hwithin _ _ hnext
      rw [follow_name _ folder hname hlong, hfolder]
      exact ih h
  | case6 folder name rest hname hlong next content hnext hrest =>
      have hfile : other.entry? (folder ++ [name]) = some (.file content) := hwithin _ _ hnext
      rw [follow_name _ folder hname hlong, hfile]
      simp only [hrest, if_true]
      exact h
  | case7 folder name rest hname hlong next content hnext hrest => cases h

theorem folder?_eq_some_iff :
    disk.folder? path = .ok (some location) ↔
      path.hasZero = false ∧ disk.locate path = .ok location ∧
        disk.entry? location = some .folder := by
  rw [folder?]
  by_cases hzero : path.hasZero = true
  · simp [hzero]
  · rw [if_neg hzero]
    rcases hlocate : disk.locate path with error | place
    · cases error <;> simp
    · simp only [Bool.eq_false_iff.2 hzero, Except.ok.injEq, true_and]
      constructor
      · intro h
        split at h
        · cases h
          exact ⟨rfl, ‹_›⟩
        · cases h
      · rintro ⟨rfl, hfolder⟩
        rw [if_pos hfolder]

theorem isFolder_iff :
    disk.isFolder path = true ↔
      path.hasZero = false ∧
        ∃ location, disk.locate path = .ok location ∧ disk.entry? location = some .folder := by
  simp only [← exists_and_left, ← folder?_eq_some_iff]
  rw [isFolder]
  rcases disk.folder? path with error | _ | location <;> simp

/-- A folder stays one when a file is put where no folder lies. -/
theorem isFolder_put (hfree : disk.entry? location ≠ some .folder) (content : Content)
    (h : disk.isFolder path = true) :
    (disk.put location (.file content)).isFolder path = true := by
  obtain ⟨hzero, place, hlocate, hfolder⟩ := isFolder_iff.1 h
  have hput := locate_put hfree content path
  rw [hlocate] at hput
  exact isFolder_iff.2 ⟨hzero, place, hput.eq_ok, entry?_put_of_folder hfree hfolder _⟩

theorem locate_eq_ok_iff :
    disk.locate path = .ok location ↔
      path.isLong = false ∧ disk.follow (disk.origin path) path.parts = .ok location := by
  rw [locate]
  by_cases hlong : path.isLong = true
  · simp [hlong]
  · simp [hlong]

/-- The folder in which a path ends is a folder to which the names before the last lead. -/
theorem locateParent_inv (h : disk.locateParent path = .ok folder) :
    path.isLong = false ∧
      disk.follow (disk.origin path) path.parts.dropLast = .ok folder ∧
      disk.entry? folder = some .folder := by
  rw [locateParent] at h
  split at h
  · cases h
  · rename_i hlong
    split at h
    · cases h
    · rename_i place hplace
      split at h
      · rename_i hfolder
        cases h
        exact ⟨Bool.eq_false_iff.2 hlong, (locate_eq_ok_iff.1 hplace).2, hfolder⟩
      · cases h

/-- A new entry is made in a folder that is there, under a name that nothing has. -/
theorem locateNew_inv (h : disk.locateNew path = .ok location) :
    path.isLong = false ∧ ∃ folder init name, path.parts = init ++ [name] ∧
      disk.follow (disk.origin path) init = .ok folder ∧ disk.entry? folder = some .folder ∧
      name ≠ ".." ∧ ¬Path.isLongName name = true ∧ disk.entry? location = none ∧
      location = folder ++ [name] := by
  rw [locateNew] at h
  split at h
  · cases h
  · rename_i folder hfolder
    obtain ⟨hshort, hfollow, hentry⟩ := locateParent_inv hfolder
    split at h
    · cases h
    · cases h
    · rename_i name hup hname
      obtain ⟨init, hinit⟩ := List.getLast?_eq_some_iff.1 hname
      rw [hinit, List.dropLast_concat] at hfollow
      split at h
      · cases h
      · rename_i hlong
        split at h
        · rename_i hvacant
          cases h
          exact ⟨hshort, folder, init, name, hinit, hfollow, hentry, hup, hlong, hvacant, rfl⟩
        · cases h

/-- Where a new entry can be made, nothing is there yet. -/
theorem locate_of_locateNew (h : disk.locateNew path = .ok location) :
    disk.locate path = .error .missing := by
  obtain ⟨hshort, folder, init, name, hparts, hfollow, hfolder, hup, hlong, hvacant, rfl⟩ :=
    locateNew_inv h
  rw [locate, hshort, if_neg Bool.false_ne_true, hparts, follow_append hfollow hfolder,
    follow_name _ folder hup hlong, hvacant]

/-- Below a folder that is missing everything is missing. -/
theorem locate_of_locateParent_missing (h : disk.locateParent path = .error .missing) :
    disk.locate path = .error .missing := by
  rw [locateParent] at h
  split at h
  · cases h
  · rename_i hshort
    split at h
    · rename_i error hparent
      cases h
      rw [locate] at hparent ⊢
      rw [if_neg hshort]
      split at hparent
      · cases hparent
      · rcases List.eq_nil_or_concat path.parts with hparts | ⟨init, name, hparts⟩
        · rw [Path.parent, hparts] at hparent
          cases hparent
        · rw [List.concat_eq_append] at hparts
          rw [Path.parent, hparts, List.dropLast_concat] at hparent
          rw [hparts]
          exact follow_append_missing hparent [name]
    · split at h <;> cases h

theorem locateParent_of_locateNew_missing (h : disk.locateNew path = .error .missing) :
    disk.locateParent path = .error .missing := by
  rw [locateNew] at h
  split at h
  · rename_i error hparent
    cases h
    exact hparent
  · split at h
    · cases h
    · cases h
    · split at h
      · cases h
      · split at h <;> cases h

/-- Where no entry can be made for want of a folder, nothing is there yet. -/
theorem locate_of_locateNew_missing (h : disk.locateNew path = .error .missing) :
    disk.locate path = .error .missing :=
  locate_of_locateParent_missing (locateParent_of_locateNew_missing h)

theorem within_put (hvacant : disk.entry? location = none) (entry : Entry) :
    disk.Within (disk.put location entry) :=
  fun _ _ hold => entry?_put_of_some hvacant hold entry

/-- A folder is made where nothing lay, and its path leads there. -/
theorem makeFolder_inv (h : disk.makeFolder path = .ok made) :
    ∃ location, disk.entry? location = none ∧ made = disk.put location .folder ∧
      made.entry? location = some .folder ∧ made.locate path = .ok location := by
  obtain ⟨location, hnew, rfl⟩ := map_eq_ok_iff.1 h
  obtain ⟨hshort, folder, init, name, hparts, hfollow, hfolder, hup, hlong, hvacant, rfl⟩ :=
    locateNew_inv hnew
  have hwithin := within_put hvacant Entry.folder
  have hmade := entry?_put_self disk (ne_nil_of_free (free_of_vacant hvacant)) Entry.folder
  refine ⟨folder ++ [name], hvacant, rfl, hmade, locate_eq_ok_iff.2 ⟨hshort, ?_⟩⟩
  have hsame : origin (disk.put (folder ++ [name]) .folder) path = disk.origin path := rfl
  rw [hsame, hparts, follow_append (follow_within hwithin hfollow) (hwithin _ _ hfolder),
    follow_name _ folder hup hlong, hmade]
  rfl

/-- A folder that has been made is there. -/
theorem isFolder_of_makeFolder (hzero : path.hasZero = false)
    (h : disk.makeFolder path = .ok made) : made.isFolder path = true := by
  obtain ⟨location, -, -, hfolder, hlocate⟩ := makeFolder_inv h
  exact isFolder_iff.2 ⟨hzero, location, hlocate, hfolder⟩

/-- A folder that is there is not made again. -/
theorem makeFolders_of_isFolder (h : disk.isFolder path = true) :
    disk.makeFolders path = (disk, .ok ()) := by
  obtain ⟨hzero, place, hlocate, -⟩ := isFolder_iff.1 h
  have hsettle (error : PathError) : disk.settleFolder path error = (disk, .ok ()) := by
    rw [settleFolder, h, if_pos rfl]
  rw [makeFolders, hzero, if_neg Bool.false_ne_true, makeFolder]
  rcases hnew : disk.locateNew path with error | location
  · cases error with
    | missing =>
        rw [locate_of_locateNew_missing hnew] at hlocate
        cases hlocate
    | _ => exact hsettle _
  · rw [locate_of_locateNew hnew] at hlocate
    cases hlocate

/-- A disk on which folders have been made where nothing lay. -/
def Made (disk ready : Disk) : Prop :=
  ∀ location, ready.entry? location = disk.entry? location ∨
    disk.entry? location = none ∧ ready.entry? location = some .folder

theorem made_refl (disk : Disk) : disk.Made disk :=
  fun _ => .inl rfl

theorem Made.trans (h : disk.Made other) (hother : other.Made ready) : disk.Made ready := by
  intro location
  rcases hother location with hsame | ⟨hnone, hfolder⟩
  · rw [hsame]
    exact h location
  · rcases h location with hsame | ⟨-, hfound⟩
    · exact .inr ⟨hsame ▸ hnone, hfolder⟩
    · rw [hfound] at hnone
      cases hnone

/-- Where no folder lies by then, nothing has changed. -/
theorem Made.eq_of_free (h : disk.Made ready) (hfree : ready.entry? location ≠ some .folder) :
    ready.entry? location = disk.entry? location := by
  rcases h location with hsame | ⟨-, hfolder⟩
  · exact hsame
  · exact absurd hfolder hfree

theorem Made.within (h : disk.Made ready) : disk.Within ready := by
  intro location entry hentry
  rcases h location with hsame | ⟨hnone, -⟩
  · rw [hsame, hentry]
  · rw [hnone] at hentry
    cases hentry

/-- A disk on which folders have been made for a path: nothing lay there, and beginnings of the
path lead there. -/
structure MadeFor (disk ready : Disk) (path : Path) : Prop where
  workplace : ready.workplace = disk.workplace
  made : disk.Made ready
  led : ∀ location, ready.entry? location ≠ disk.entry? location →
    ∃ before, before <+: path.parts ∧ ready.follow (ready.origin path) before = .ok location

theorem madeFor_refl (disk : Disk) (path : Path) : disk.MadeFor disk path :=
  ⟨rfl, made_refl disk, fun _ hnew => absurd rfl hnew⟩

theorem madeFor_of_makeFolder (h : disk.makeFolder path = .ok made) : disk.MadeFor made path := by
  obtain ⟨place, hvacant, rfl, hfolder, hlocate⟩ := makeFolder_inv h
  refine ⟨rfl, fun location => ?_, fun location hnew => ?_⟩
  · by_cases hsame : location = place
    · rw [hsame]
      exact .inr ⟨hvacant, hfolder⟩
    · exact .inl (entry?_put_of_ne disk hsame _)
  · by_cases hsame : location = place
    · rw [hsame]
      exact ⟨path.parts, List.prefix_rfl, (locate_eq_ok_iff.1 hlocate).2⟩
    · exact absurd (entry?_put_of_ne disk hsame _) hnew

theorem MadeFor.trans {long : Path} (h : disk.MadeFor other path)
    (hother : other.MadeFor ready long) (hroot : long.root = path.root)
    (hparts : path.parts <+: long.parts) : disk.MadeFor ready long where
  workplace := hother.workplace.trans h.workplace
  made := h.made.trans hother.made
  led := by
    intro location hnew
    by_cases hsame : ready.entry? location = other.entry? location
    · obtain ⟨before, hbefore, hfollow⟩ := h.led location (hsame ▸ hnew)
      have horigin : ready.origin long = other.origin path := by
        rw [origin, origin, hroot, hother.workplace]
      rw [horigin]
      exact ⟨before, hbefore.trans hparts, follow_within hother.made.within hfollow⟩
    · exact hother.led location hsame

theorem settleFolder_inv {error : PathError} (h : disk.settleFolder path error = (ready, .ok ())) :
    ready = disk ∧ disk.isFolder path = true := by
  rw [settleFolder] at h
  split at h
  · rename_i hfolder
    cases h
    exact ⟨rfl, hfolder⟩
  · cases h

/-- When the folders of a path have been made, they are there, and nothing else has
changed. -/
theorem makeFolders_inv (h : disk.makeFolders path = (ready, .ok ())) :
    ready.isFolder path = true ∧ disk.MadeFor ready path := by
  fun_induction Disk.makeFolders disk path generalizing ready with
  | case1 path hzero => cases h
  | case2 path hzero made hmake =>
      cases h
      exact ⟨isFolder_of_makeFolder (Bool.eq_false_iff.2 hzero) hmake, madeFor_of_makeFolder hmake⟩
  | case3 path hzero hmissing hparts => cases h
  | case4 path hzero hmissing hparts above fault habove => cases h
  | case5 path hzero hmissing hparts above habove made hmake ih =>
      cases h
      obtain ⟨-, hmade⟩ := ih habove
      exact ⟨isFolder_of_makeFolder (Bool.eq_false_iff.2 hzero) hmake,
        hmade.trans (madeFor_of_makeFolder hmake) rfl (List.dropLast_prefix _)⟩
  | case6 path hzero hmissing hparts above habove hagain => cases h
  | case7 path hzero hmissing hparts above habove error hother hmake ih =>
      obtain ⟨-, hmade⟩ := ih habove
      obtain ⟨rfl, hfolder⟩ := settleFolder_inv h
      exact ⟨hfolder, hmade.trans (madeFor_refl _ _) rfl (List.dropLast_prefix _)⟩
  | case8 path hzero error hother hmake =>
      obtain ⟨rfl, hfolder⟩ := settleFolder_inv h
      exact ⟨hfolder, madeFor_refl _ _⟩

/-- In a folder that is there already nothing but the last folder of a path is new. -/
theorem locate_of_makeFolders (hparent : disk.isFolder path.parent = true)
    (h : disk.makeFolders path = (ready, .ok ()))
    (hnew : ready.entry? location ≠ disk.entry? location) : ready.locate path = .ok location := by
  rw [makeFolders] at h
  split at h
  · cases h
  · split at h
    · rename_i made hmake
      cases h
      obtain ⟨place, -, rfl, -, hlocate⟩ := makeFolder_inv hmake
      by_cases hsame : location = place
      · rw [hsame, hlocate]
      · exact absurd (entry?_put_of_ne disk hsame _) hnew
    · rename_i hmissing
      have hnone := locateParent_of_locateNew_missing (map_eq_error_iff.1 hmissing)
      obtain ⟨-, place, hplace, hfolder⟩ := isFolder_iff.1 hparent
      simp only [locateParent, hplace, hfolder, if_true] at hnone
      split at hnone <;> cases hnone
    · obtain ⟨rfl, -⟩ := settleFolder_inv h
      exact absurd rfl hnew

end Disk

end RiverPuzzle
