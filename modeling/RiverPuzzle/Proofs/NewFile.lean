import RiverPuzzle.Disk.Table

/-!
# New files

A file that is put where no folder lies is in nobody's way: what lies elsewhere is the
same as before, and every path that led to a table still leads to it.  The main
statement says so for the place of a table.
-/

namespace RiverPuzzle

namespace Address

theorem length_of_mem_all :
    ∀ named ∈ Store.all, 2 ≤ named.1.length ∧ named.1.length ≤ 5 := by
  decide +kernel

/-- The name of every kind of store has from two to five letters. -/
theorem length_of_lookup {name : String} {store : Store}
    (h : Store.all.lookup name = some store) : 2 ≤ name.length ∧ name.length ≤ 5 := by
  obtain ⟨before, after, hall, -⟩ := List.lookup_eq_some_iff.1 h
  apply length_of_mem_all (name, store)
  rw [hall]
  exact List.mem_append_right before List.mem_cons_self

/-- A text that is not meant for an address leads to no store as one. -/
theorem target_of_not_meant {text : List Char} {address : Address} {place : Place}
    (hmeant : isMeant text = false) (haddress : ofText? text = some address) :
    address.target ≠ .ok place := by
  unfold ofText? at haddress
  unfold isMeant at hmeant
  cases hsplit : split? text with
  | none =>
      rw [hsplit] at haddress
      cases haddress
  | some parts =>
      obtain ⟨scheme, rest⟩ := parts
      simp only [hsplit] at haddress hmeant
      split at haddress
      · cases haddress
        cases hstore : Store.all.lookup (String.ofList scheme) with
        | none => simp [target, hstore]
        | some store =>
            have hlength := length_of_lookup hstore
            rw [String.length_ofList] at hlength
            simp at hmeant
            omega
      · cases haddress

end Address

namespace Disk

variable {disk : Disk} {location : Location}

theorem lookup_filter_ne (entries : List (Location × Entry)) {other : Location}
    (hne : other ≠ location) :
    (entries.filter fun entry => entry.1 != location).lookup other = entries.lookup other := by
  induction entries with
  | nil => rfl
  | cons entry rest ih =>
      by_cases hentry : entry.1 = location
      · have hother : (other == entry.1) = false := by
          rw [hentry]
          exact beq_false_of_ne hne
        rw [List.filter_cons_of_neg (by simpa using hentry), ih, List.lookup_cons, hother]
      · rw [List.filter_cons_of_pos (by simpa using hentry), List.lookup_cons, List.lookup_cons, ih]

theorem entry?_put_self (disk : Disk) (hlocation : location ≠ []) (entry : Entry) :
    entry? (disk.put location entry) location = some entry := by
  unfold entry?
  rw [if_neg (by simpa using hlocation)]
  simp [put]

theorem entry?_put_of_ne (disk : Disk) {other : Location} (hne : other ≠ location)
    (entry : Entry) : entry? (disk.put location entry) other = disk.entry? other := by
  have hother : (other == location) = false := beq_false_of_ne hne
  unfold entry?
  split
  · rfl
  · rw [put, List.lookup_cons, hother]
    exact lookup_filter_ne disk.entries hne

/-- Where nothing lies no folder does. -/
theorem free_of_vacant (hvacant : disk.entry? location = none) :
    disk.entry? location ≠ some .folder := by
  rw [hvacant]
  exact nofun

theorem ne_nil_of_free (hfree : disk.entry? location ≠ some .folder) : location ≠ [] := by
  rintro rfl
  exact hfree rfl

theorem entry?_put_of_some (hvacant : disk.entry? location = none) {other : Location}
    {old : Entry} (hold : disk.entry? other = some old) (entry : Entry) :
    entry? (disk.put location entry) other = some old := by
  have hne : other ≠ location := by
    rintro rfl
    rw [hvacant] at hold
    cases hold
  rw [disk.entry?_put_of_ne hne, hold]

theorem entry?_put_of_folder (hfree : disk.entry? location ≠ some .folder) {other : Location}
    (hother : disk.entry? other = some .folder) (entry : Entry) :
    entry? (disk.put location entry) other = some .folder := by
  have hne : other ≠ location := by
    rintro rfl
    exact hfree hother
  rw [disk.entry?_put_of_ne hne, hother]

/-- Where a file lies there is still one when another file is put somewhere. -/
theorem exists_entry?_put_of_file {other : Location} {old : Content} (hlocation : location ≠ [])
    (hother : disk.entry? other = some (.file old)) (content : Content) :
    ∃ new, entry? (disk.put location (.file content)) other = some (.file new) := by
  by_cases hsame : other = location
  · rw [hsame]
    exact ⟨content, entry?_put_self disk hlocation _⟩
  · rw [disk.entry?_put_of_ne hsame]
    exact ⟨old, hother⟩

/-- What comes of following names, before and after a file is put where no folder lies: the
same, unless the names led to nothing and now reach the file. -/
inductive Unharmed (location : Location) :
    Except PathError Location → Except PathError Location → Prop
  | same (result : Except PathError Location) : Unharmed location result result
  | found : Unharmed location (.error .missing) (.ok location)
  | blocked : Unharmed location (.error .missing) (.error .notFolder)

theorem Unharmed.eq_ok {result : Except PathError Location} {found : Location}
    (h : Unharmed location (.ok found) result) : result = .ok found := by
  cases h
  rfl

theorem follow_name (disk : Disk) (folder : Location) {name : String} (hname : name ≠ "..")
    (hlong : ¬Path.isLongName name = true) (rest : List String) :
    disk.follow folder (name :: rest) =
      match disk.entry? (folder ++ [name]) with
      | none => .error .missing
      | some .folder => disk.follow (folder ++ [name]) rest
      | some (.file _) => if rest.isEmpty then .ok (folder ++ [name]) else .error .notFolder := by
  cases hentry : disk.entry? (folder ++ [name]) with
  | none => simp [follow, hlong, hentry]
  | some entry => cases entry <;> simp [follow, hlong, hentry]

theorem follow_put (hfree : disk.entry? location ≠ some .folder) (content : Content)
    (folder : Location) (names : List String) :
    Unharmed location (disk.follow folder names)
      ((disk.put location (.file content)).follow folder names) := by
  fun_induction Disk.follow disk folder names with
  | case1 folder => exact .same _
  | case2 folder rest ih =>
      rw [follow]
      exact ih
  | case3 folder name rest hname hlong =>
      rw [follow, if_pos hlong]
      · exact .same _
      · exact hname
  | case4 folder name rest hname hlong next hnext =>
      rw [follow_name _ folder hname hlong]
      by_cases hnew : folder ++ [name] = location
      · -- The names led to nothing; now they end at the file, or cannot go on from it.
        rw [hnew, entry?_put_self _ (ne_nil_of_free hfree)]
        cases hrest : rest.isEmpty with
        | true => exact .found
        | false => exact .blocked
      · rw [entry?_put_of_ne _ hnew, show disk.entry? (folder ++ [name]) = none from hnext]
        exact .same _
  | case5 folder name rest hname hlong next hnext ih =>
      have hput := entry?_put_of_folder hfree hnext (.file content)
      rw [follow_name _ folder hname hlong, show _ = some Entry.folder from hput]
      exact ih
  | case6 folder name rest hname hlong next old hnext hrest =>
      obtain ⟨new, hput⟩ := exists_entry?_put_of_file (ne_nil_of_free hfree) hnext content
      rw [follow_name _ folder hname hlong, show _ = some (Entry.file new) from hput]
      simp only [hrest, if_true]
      exact .same _
  | case7 folder name rest hname hlong next old hnext hrest =>
      obtain ⟨new, hput⟩ := exists_entry?_put_of_file (ne_nil_of_free hfree) hnext content
      rw [follow_name _ folder hname hlong, show _ = some (Entry.file new) from hput]
      simp only [hrest]
      exact .same _

theorem locate_put (hfree : disk.entry? location ≠ some .folder) (content : Content)
    (path : Path) :
    Unharmed location (disk.locate path) ((disk.put location (.file content)).locate path) := by
  unfold locate
  split
  · exact .same _
  · exact follow_put hfree content _ path.parts

theorem locateParent_put (hfree : disk.entry? location ≠ some .folder) (content : Content)
    {path : Path} {folder : Location} (h : disk.locateParent path = .ok folder) :
    (disk.put location (.file content)).locateParent path = .ok folder := by
  unfold locateParent at h ⊢
  split at h
  · cases h
  · rename_i hlong
    rw [if_neg hlong]
    have hput := locate_put hfree content path.parent
    cases hparent : disk.locate path.parent with
    | error error =>
        rw [hparent] at h
        cases h
    | ok found =>
        rw [hparent] at h hput
        simp only at h
        split at h
        · rename_i hfolder
          cases h
          rw [hput.eq_ok]
          simp only
          rw [if_pos (entry?_put_of_folder hfree hfolder _)]
        · cases h

/-- A file has its place in a folder, under a name that no folder has. -/
theorem locateFile_eq_ok_iff {path : Path} {found : Location} :
    disk.locateFile path = .ok found ↔
      ∃ folder name, disk.locateParent path = .ok folder ∧ path.parts.getLast? = some name ∧
        name ≠ ".." ∧ Path.isLongName name = false ∧
        disk.entry? (folder ++ [name]) ≠ some .folder ∧ found = folder ++ [name] := by
  unfold locateFile
  constructor
  · intro h
    split at h
    · cases h
    · rename_i folder hfolder
      split at h
      · cases h
      · cases h
      · rename_i name hup hname
        split at h
        · cases h
        · rename_i hlong
          split at h
          · cases h
          · rename_i hfree
            cases h
            exact ⟨folder, name, hfolder, hname, hup, Bool.eq_false_iff.2 hlong, hfree, rfl⟩
  · rintro ⟨folder, name, hfolder, hname, hup, hlong, hfree, rfl⟩
    simp only [hfolder, hname, hlong, Bool.false_eq_true, if_false]
    rw [if_neg hfree]

theorem locateFile_put (hfree : disk.entry? location ≠ some .folder) (content : Content)
    {path : Path} {found : Location} (h : disk.locateFile path = .ok found) :
    (disk.put location (.file content)).locateFile path = .ok found := by
  obtain ⟨folder, name, hfolder, hname, hup, hlong, hopen, rfl⟩ := locateFile_eq_ok_iff.1 h
  refine locateFile_eq_ok_iff.2 ⟨folder, name, locateParent_put hfree content hfolder, hname,
    hup, hlong, ?_, rfl⟩
  by_cases hnew : folder ++ [name] = location
  · rw [hnew, entry?_put_self _ (ne_nil_of_free hfree)]
    simp
  · rwa [entry?_put_of_ne _ hnew]

/-- A text names a place on this disk if it is not meant for an address and spells a path
where a file can lie. -/
theorem openOnDisk_eq_ok_iff {text : String} {found : Location} :
    disk.openOnDisk text = .ok found ↔
      ¬Address.isMeant text.toList = true ∧ ¬text.toList.contains '\x00' = true ∧
        ¬text.isEmpty = true ∧ disk.locateFile (Path.ofText text) = .ok found := by
  unfold openOnDisk
  constructor
  · intro h
    split at h
    · cases h
    · rename_i hmeant
      split at h
      · cases h
      · rename_i hzero
        split at h
        · cases h
        · rename_i hempty
          split at h
          · cases h
          · rename_i place hplace
            cases h
            exact ⟨hmeant, hzero, hempty, hplace⟩
  · rintro ⟨hmeant, hzero, hempty, hfile⟩
    rw [if_neg hmeant, if_neg hzero, if_neg hempty, hfile]

theorem openOnDisk_put (hfree : disk.entry? location ≠ some .folder) (content : Content)
    {text : String} {found : Location} (h : disk.openOnDisk text = .ok found) :
    (disk.put location (.file content)).openOnDisk text = .ok found := by
  obtain ⟨hmeant, hzero, hempty, hfile⟩ := openOnDisk_eq_ok_iff.1 h
  exact openOnDisk_eq_ok_iff.2 ⟨hmeant, hzero, hempty, locateFile_put hfree content hfile⟩

/-- A text that is not meant for an address names the place on this disk that it spells. -/
theorem placeOfText_eq {text : String} {place : Place}
    (hmeant : Address.isMeant text.toList = false) (h : placeOfText text = .ok place) :
    place = .onDisk text := by
  unfold placeOfText at h
  cases haddress : Address.ofText? text.toList with
  | none =>
      rw [haddress] at h
      cases h
      rfl
  | some address =>
      rw [haddress] at h
      cases htarget : address.target with
      | error fault => simp [htarget] at h
      | ok other => exact absurd htarget (Address.target_of_not_meant hmeant haddress)

theorem placeOfTable_put (hfree : disk.entry? location ≠ some .folder) (content : Content)
    {path : Path} {place : Place} (h : disk.placeOfTable path = .ok place) :
    (disk.put location (.file content)).placeOfTable path = .ok place := by
  have hhome : (disk.put location (.file content)).writtenOut path = disk.writtenOut path := rfl
  unfold placeOfTable at h ⊢
  rw [hhome]
  cases hmeant : Address.isMeant (disk.writtenOut path).text.toList with
  | true => simpa only [hmeant, if_true] using h
  | false =>
      simp only [hmeant, Bool.false_eq_true, if_false] at h ⊢
      have hput := locate_put hfree content (disk.writtenOut path)
      generalize disk.locate (disk.writtenOut path) = result at h hput
      generalize (disk.put location (.file content)).locate (disk.writtenOut path) = after at hput ⊢
      cases hput with
      | same => exact h
      | found => rw [placeOfText_eq hmeant h]
      | blocked => exact h

/-- A table still goes where it went before a file was put where no folder lay. -/
theorem locateTable_put (hfree : disk.entry? location ≠ some .folder) (content : Content)
    {path : Path} {found : Option Location} (h : disk.locateTable path = .ok found) :
    (disk.put location (.file content)).locateTable path = .ok found := by
  unfold locateTable at h ⊢
  cases hplace : disk.placeOfTable path with
  | error fault =>
      rw [hplace] at h
      cases h
  | ok place =>
      rw [hplace] at h
      rw [placeOfTable_put hfree content hplace]
      cases place with
      | onDisk text =>
          simp only at h ⊢
          cases hopen : disk.openOnDisk text with
          | error fault => simp [hopen, Except.map] at h
          | ok spot =>
              rw [openOnDisk_put hfree content hopen]
              rwa [hopen] at h
      | inMemory text => exact h

/-- A table goes where no folder lies. -/
theorem free_of_locateTable {path : Path} (h : disk.locateTable path = .ok (some location)) :
    disk.entry? location ≠ some .folder := by
  unfold locateTable at h
  split at h
  · cases h
  · rename_i text hplace
    rcases hopen : disk.openOnDisk text with fault | place
    · rw [hopen] at h
      cases h
    · rw [hopen] at h
      cases h
      obtain ⟨-, -, -, hfile⟩ := openOnDisk_eq_ok_iff.1 hopen
      obtain ⟨folder, name, -, -, -, -, hfree, rfl⟩ := locateFile_eq_ok_iff.1 hfile
      exact hfree
  · rename_i text hplace
    rcases hopen : openInMemory text with fault | done
    · rw [hopen] at h
      cases h
    · rw [hopen] at h
      cases h

section

variable {done : Disk} {path other : Path} {content : Content} {found : Option Location}

/-- A table that has a place can be written. -/
theorem exists_writeTable (h : disk.locateTable path = .ok found) (content : Content) :
    ∃ done, disk.writeTable path content = .ok done := by
  unfold writeTable
  simp only [h]
  cases found with
  | none => exact ⟨disk, rfl⟩
  | some location => exact ⟨_, rfl⟩

/-- A table still goes where it went before another one was written. -/
theorem locateTable_writeTable (hdone : disk.writeTable path content = .ok done)
    (h : disk.locateTable other = .ok found) : done.locateTable other = .ok found := by
  unfold writeTable at hdone
  split at hdone
  · cases hdone
  · cases hdone
    exact h
  · rename_i location hlocation
    cases hdone
    exact locateTable_put (free_of_locateTable hlocation) content h

end

end Disk

end RiverPuzzle
