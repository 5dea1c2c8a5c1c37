import Mathlib.Data.List.Basic
import Mathlib.Data.List.Induction
import Mathlib.Data.List.TakeWhile
import RiverPuzzle.Proofs.NewFile

/-!
# Fresh folders

An output folder is fresh for a run when its logs folder can be made, the tables of the
run have places in it, and there is no trace yet.  The main statement finds such a
folder at every path of plain names, from the top folder on or from the working folder
on, as long as no file lies on the way.
-/

namespace RiverPuzzle

namespace Path

/-- A name that stands for itself in the text of a path, and that a disk can hold. -/
def PlainName (name : String) : Prop :=
  name ∉ ["", ".", ".."] ∧ '/' ∉ name.toList ∧ '\x00' ∉ name.toList ∧ isLongName name = false

instance (name : String) : Decidable (PlainName name) :=
  inferInstanceAs (Decidable (name ∉ ["", ".", ".."] ∧ '/' ∉ name.toList ∧
    '\x00' ∉ name.toList ∧ isLongName name = false))

/-- A name with which a path from the working folder on can begin: it starts in nobody's home,
and no colon in it ends the name of a kind of store. -/
def LocalName (name : String) : Prop :=
  ':' ∉ name.toList ∧ name.toList.head? ≠ some '~'

instance (name : String) : Decidable (LocalName name) :=
  inferInstanceAs (Decidable (':' ∉ name.toList ∧ name.toList.head? ≠ some '~'))

/-- A path from the top folder or the working folder on, all names of which stand for
themselves. -/
structure Plain (path : Path) : Prop where
  start : path.root = "/" ∨ path.root = "" ∧ ∀ name ∈ path.parts.head?, LocalName name
  names : ∀ name ∈ path.parts, PlainName name

variable {path : Path} {name : String}

theorem parent_child (path : Path) (name : String) : (path.child name).parent = path := by
  simp [parent, child]

theorem Plain.child (h : path.Plain) (hname : PlainName name) (hlocal : LocalName name) :
    (path.child name).Plain where
  start := by
    refine h.start.imp_right fun ⟨hroot, hfirst⟩ => ⟨hroot, fun first hmem => ?_⟩
    rw [Path.child, List.head?_append] at hmem
    cases hparts : path.parts with
    | nil =>
        rw [hparts] at hmem
        cases hmem
        exact hlocal
    | cons other rest =>
        rw [hparts] at hmem hfirst
        exact hfirst first hmem
  names := by
    intro other hother
    rcases List.mem_append.1 hother with hold | hnew
    · exact h.names other hold
    · rwa [List.mem_singleton.1 hnew]

theorem Plain.of_child (h : (path.child name).Plain) : path.Plain where
  start := by
    refine h.start.imp_right fun ⟨hroot, hfirst⟩ => ⟨hroot, fun first hmem => ?_⟩
    apply hfirst
    rw [Path.child, List.head?_append, Option.mem_def.1 hmem]
    rfl
  names := fun other hother => h.names other (List.mem_append_left _ hother)

theorem Plain.last (h : (path.child name).Plain) : PlainName name :=
  h.names name (List.mem_append_right _ List.mem_cons_self)

theorem Plain.logs (h : path.Plain) : path.logs.Plain :=
  h.child (by decide) (by decide)

theorem Plain.trace (h : path.Plain) : path.trace.Plain :=
  h.logs.child (by decide) (by decide)

theorem Plain.summary (h : path.Plain) : path.summary.Plain :=
  h.logs.child (by decide) (by decide)

theorem parts_child_ne_nil (path : Path) (name : String) : (path.child name).parts ≠ [] :=
  List.append_ne_nil_of_right_ne_nil _ (List.cons_ne_nil name [])

theorem text_of_ne_nil (hparts : path.parts ≠ []) :
    path.text = path.root ++ "/".intercalate path.parts := by
  rw [text, if_neg (by simp [hparts])]

theorem toList_text (hparts : path.parts ≠ []) :
    path.text.toList =
      path.root.toList ++ ['/'].intercalate (path.parts.map String.toList) := by
  simp [text_of_ne_nil hparts, String.toList_intercalate]

theorem Plain.hasZero_eq_false (h : path.Plain) : path.hasZero = false := by
  rw [hasZero, List.any_eq_false]
  intro name hname
  simpa using (h.names name hname).2.2.1

theorem mem_intercalate {char : Char} {words : List (List Char)}
    (h : char ∈ ['/'].intercalate words) : char = '/' ∨ ∃ word ∈ words, char ∈ word := by
  induction words with
  | nil => simp at h
  | cons word rest ih =>
      cases hrest : rest with
      | nil =>
          rw [hrest, List.intercalate_singleton] at h
          exact .inr ⟨word, List.mem_cons_self, h⟩
      | cons next more =>
          rw [List.intercalate_cons_of_ne_nil (by simp [hrest]), List.mem_append,
            List.mem_append, List.mem_singleton] at h
          rw [← hrest]
          rcases h with (hword | hslash) | hlater
          · exact .inr ⟨word, List.mem_cons_self, hword⟩
          · exact .inl hslash
          · rcases ih hlater with hslash | ⟨other, hother, hmem⟩
            · exact .inl hslash
            · exact .inr ⟨other, List.mem_cons_of_mem word hother, hmem⟩

theorem Plain.zero_notMem_text (h : path.Plain) (hparts : path.parts ≠ []) :
    '\x00' ∉ path.text.toList := by
  rw [toList_text hparts, List.mem_append, not_or]
  constructor
  · rcases h.start with hroot | ⟨hroot, -⟩ <;> rw [hroot] <;> decide
  · intro hmem
    rcases mem_intercalate hmem with hslash | ⟨word, hword, hzero⟩
    · exact absurd hslash (by decide)
    · obtain ⟨name, hname, rfl⟩ := List.mem_map.1 hword
      exact (h.names name hname).2.2.1 hzero

theorem PlainName.ne_up (h : PlainName name) : name ≠ ".." := by
  rintro rfl
  exact h.1 (by decide)

theorem PlainName.not_long (h : PlainName name) : ¬isLongName name = true :=
  Bool.eq_false_iff.1 h.2.2.2

theorem PlainName.exists_cons (h : PlainName name) :
    ∃ first rest, name.toList = first :: rest ∧ first ≠ '/' := by
  cases hname : name.toList with
  | nil =>
      have hempty : name = "" := String.toList_inj.1 hname
      exact absurd (by simp [hempty]) h.1
  | cons first rest =>
      refine ⟨first, rest, rfl, ?_⟩
      rintro rfl
      exact h.2.1 (hname ▸ List.mem_cons_self)

theorem PlainName.size_pos (h : PlainName name) : 0 < name.utf8ByteSize := by
  apply Nat.pos_of_ne_zero
  rw [ne_eq, String.utf8ByteSize_eq_zero_iff]
  rintro rfl
  exact h.1 (by decide)

theorem splitOn_names {names : List String} (hnames : ∀ name ∈ names, PlainName name)
    (hne : names ≠ []) :
    ((['/'].intercalate (names.map String.toList)).splitOn '/').map String.ofList = names := by
  rw [List.splitOn_intercalate '/']
  · simp [List.map_map, Function.comp_def]
  · intro word hword
    obtain ⟨name, hname, rfl⟩ := List.mem_map.1 hword
    exact (hnames name hname).2.1
  · simpa using hne

/-- The names of a plain path begin with no slash. -/
theorem takeWhile_names {names : List String} (hnames : ∀ name ∈ names, PlainName name) :
    (['/'].intercalate (names.map String.toList)).takeWhile (· == '/') = [] := by
  cases names with
  | nil => rfl
  | cons name more =>
      obtain ⟨first, rest, hfirst, hslash⟩ := (hnames name List.mem_cons_self).exists_cons
      rw [List.map_cons, hfirst, List.intercalate_cons_cons_left]
      simp [hslash]

theorem filter_names {names : List String} (hnames : ∀ name ∈ names, PlainName name) :
    names.filter (fun part => part != "" && part != ".") = names := by
  refine List.filter_eq_self.2 fun name hname => ?_
  have := (hnames name hname).1
  simp only [List.mem_cons, not_or] at this
  simp [this.1, this.2.1]

/-- The text of a plain path names the path. -/
theorem Plain.ofText_text (h : path.Plain) (hparts : path.parts ≠ []) :
    ofText path.text = path := by
  rw [ofText, toList_text hparts]
  obtain ⟨root, names⟩ := path
  have hfront := takeWhile_names h.names
  have hsplit := splitOn_names h.names hparts
  have hkept := filter_names h.names
  simp only at hfront hsplit hkept ⊢
  rcases h.start with hroot | ⟨hroot, -⟩
  · obtain rfl : root = "/" := hroot
    have hslash : "/".toList = ['/'] := rfl
    rw [hslash, List.singleton_append]
    congr 1
    · rw [List.takeWhile_cons_of_pos (by decide), hfront]
      rfl
    · rw [show ('/' :: _ : List Char) = [] ++ '/' :: _ from rfl,
        List.splitOn_append_cons_self_of_not_mem List.not_mem_nil, List.map_cons, hsplit,
        List.filter_cons_of_neg (by decide), hkept]
  · obtain rfl : root = "" := hroot
    have hempty : "".toList = [] := rfl
    rw [hempty, List.nil_append, hfront, hsplit, hkept]
    rfl

theorem text_child (hparts : path.parts ≠ []) :
    (path.child name).text = path.text ++ "/" ++ name := by
  rw [text_of_ne_nil (parts_child_ne_nil path name), text_of_ne_nil hparts, Path.child,
    String.intercalate_append_of_ne_nil hparts (List.cons_ne_nil _ _),
    String.intercalate_singleton, String.append_assoc, String.append_assoc, String.append_assoc]

theorem Plain.isLong_of_child (h : (path.child name).Plain)
    (hshort : (path.child name).isLong = false) : path.isLong = false := by
  have hsize : path.text.utf8ByteSize ≤ (path.child name).text.utf8ByteSize := by
    by_cases hparts : path.parts = []
    · -- A path without names is one character, and a longer one has a name.
      have hname : (path.child name).text = path.root ++ name := by
        rw [text_of_ne_nil (parts_child_ne_nil path name), Path.child, hparts, List.nil_append,
          String.intercalate_singleton]
      have hpos := h.last.size_pos
      rw [hname, String.utf8ByteSize_append]
      rcases h.start with hroot | ⟨hroot, -⟩
      · have hroot : path.root = "/" := hroot
        have htext : path.text = "/" := by simp [text, hroot, hparts]
        rw [htext, hroot]
        omega
      · have hroot : path.root = "" := hroot
        have htext : path.text = "." := by simp [text, hroot, hparts]
        have hdot : ".".utf8ByteSize = 1 := by decide
        rw [htext, hroot]
        omega
    · rw [text_child hparts, String.utf8ByteSize_append, String.utf8ByteSize_append]
      omega
  simp only [isLong, decide_eq_false_iff_not] at hshort ⊢
  omega

/-- The path of the summary is the longer one. -/
theorem isLong_trace (hshort : path.summary.isLong = false) : path.trace.isLong = false := by
  have hlogs : path.logs.parts ≠ [] := parts_child_ne_nil path "logs"
  have htrace : path.trace.text = path.logs.text ++ "/" ++ "trace_log.parquet" :=
    text_child hlogs
  have hsummary : path.summary.text = path.logs.text ++ "/" ++ "run_summary.parquet" :=
    text_child hlogs
  have hlength : "trace_log.parquet".utf8ByteSize ≤ "run_summary.parquet".utf8ByteSize := by
    decide
  simp only [isLong, decide_eq_false_iff_not, htrace, hsummary, String.utf8ByteSize_append]
    at hshort ⊢
  omega

end Path

namespace Address

variable {text : List Char}

/-- A text with a slash before its first colon does not read as an address. -/
theorem split?_of_slash (h : '/' ∈ text.takeWhile (· != ':')) : split? text = none := by
  have hscheme : isScheme (text.takeWhile (· != ':')) = false := by
    cases hfront : text.takeWhile (· != ':') with
    | nil => rfl
    | cons first rest =>
        rw [hfront] at h
        rw [isScheme, Bool.and_eq_false_iff, List.all_eq_false]
        rcases List.mem_cons.1 h with rfl | hrest
        · exact .inl (by decide)
        · exact .inr ⟨'/', hrest, by decide⟩
  unfold split?
  split
  · rfl
  · simp only [hscheme, Bool.false_eq_true, if_false]

theorem split?_of_notMem (h : ':' ∉ text) : split? text = none := by
  have hdrop : text.dropWhile (· != ':') = [] :=
    List.dropWhile_eq_nil_iff.2 fun char hchar => bne_iff_ne.2 fun heq => h (heq ▸ hchar)
  rw [split?, hdrop]

/-- A plain path does not read as an address. -/
theorem split?_text {path : Path} (h : path.Plain) (hparts : path.parts ≠ []) :
    split? path.text.toList = none := by
  rw [Path.toList_text hparts]
  rcases h.start with hroot | ⟨hroot, hfirst⟩
  · rw [hroot]
    exact split?_of_slash (by simp)
  · obtain ⟨name, more, hnames⟩ := List.exists_cons_of_ne_nil hparts
    obtain ⟨hcolon, -⟩ := hfirst name (by simp [hnames])
    rw [hroot, hnames, List.map_cons]
    cases more with
    | nil => exact split?_of_notMem (by simpa using hcolon)
    | cons next more =>
        apply split?_of_slash
        have hkept : ∀ char ∈ name.toList, (char != ':') = true :=
          fun char hchar => bne_iff_ne.2 fun heq => hcolon (heq ▸ hchar)
        rw [List.map_cons, List.intercalate_cons_cons]
        simp [List.takeWhile_append_of_pos hkept]

theorem isMeant_text {path : Path} (h : path.Plain) (hparts : path.parts ≠ []) :
    isMeant path.text.toList = false := by
  rw [isMeant, split?_text h hparts]

theorem ofText?_text {path : Path} (h : path.Plain) (hparts : path.parts ≠ []) :
    ofText? path.text.toList = none := by
  rw [ofText?, split?_text h hparts]

end Address

namespace Disk

variable {disk ready : Disk} {path : Path} {location : Location}

/-- All the folders on the way to a location are there. -/
def Stands (disk : Disk) (location : Location) : Prop :=
  ∀ before, before <+: location → disk.entry? before = some .folder

/-- No file lies on the way to a location. -/
def Clear (disk : Disk) (location : Location) : Prop :=
  ∀ before, before <+: location → ∀ content, disk.entry? before ≠ some (.file content)

theorem Stands.clear (h : disk.Stands location) : disk.Clear location := by
  intro before hbefore content
  rw [h before hbefore]
  simp

theorem mem_waysTo {way : Location} :
    way ∈ waysTo location ↔ way ≠ [] ∧ way <+: location := by
  simp only [waysTo, List.mem_map, List.mem_range]
  constructor
  · rintro ⟨length, hlength, rfl⟩
    refine ⟨?_, List.take_prefix _ _⟩
    rw [ne_eq, List.take_eq_nil_iff]
    rintro (hzero | rfl)
    · cases hzero
    · cases hlength
  · rintro ⟨hne, hprefix⟩
    have hpos := List.length_pos_iff.2 hne
    have hle := hprefix.length_le
    refine ⟨way.length - 1, by omega, ?_⟩
    rw [Nat.sub_add_cancel hpos]
    exact (List.prefix_iff_eq_take.1 hprefix).symm

/-- A blank disk holds the folders on the way to the working folder, and nothing else. -/
theorem entry?_blank (workplace : Location) (homes : List (String × Path)) :
    entry? (.blank workplace homes) location =
      if location <+: workplace then some .folder else none := by
  unfold entry?
  cases hlocation : location.isEmpty with
  | true =>
      obtain rfl := List.isEmpty_iff.1 hlocation
      simp
  | false =>
      have hne : location ≠ [] := by simpa using hlocation
      by_cases hway : location <+: workplace
      · rw [if_pos hway]
        exact List.lookup_graph (fun _ => Entry.folder) (mem_waysTo.2 ⟨hne, hway⟩)
      · rw [if_neg hway, if_neg Bool.false_ne_true, List.lookup_eq_none_iff]
        intro entry hentry
        obtain ⟨way, hmem, rfl⟩ := List.mem_map.1 hentry
        rw [bne_iff_ne]
        rintro rfl
        exact hway (mem_waysTo.1 hmem).2

/-- Nothing on a blank disk is a file. -/
theorem clear_blank (workplace : Location) (homes : List (String × Path))
    (location : Location) : Disk.Clear (.blank workplace homes) location := by
  intro before _ content
  rw [entry?_blank]
  split <;> simp

theorem stands_blank (workplace : Location) (homes : List (String × Path)) :
    Disk.Stands (.blank workplace homes) workplace := by
  intro before hbefore
  rw [entry?_blank, if_pos hbefore]

theorem stands_nil (disk : Disk) : disk.Stands [] := by
  intro before hbefore
  rw [List.prefix_nil.1 hbefore]
  rfl

theorem Stands.concat {name : String} (h : disk.Stands location)
    (hlast : disk.entry? (location ++ [name]) = some .folder) :
    disk.Stands (location ++ [name]) := by
  intro before hbefore
  rcases List.prefix_concat_iff.1 hbefore with rfl | hbefore
  · exact hlast
  · exact h before hbefore

theorem follow_of_stands (folder : Location) {names : List String}
    (hnames : ∀ name ∈ names, Path.PlainName name)
    (hstands : disk.Stands (folder ++ names)) :
    disk.follow folder names = .ok (folder ++ names) := by
  induction names generalizing folder with
  | nil => simp [follow]
  | cons name rest ih =>
      have hname := hnames name List.mem_cons_self
      rw [List.append_cons] at hstands ⊢
      rw [follow_name disk folder hname.ne_up hname.not_long,
        hstands _ (List.prefix_append _ _)]
      exact ih _ (fun other hother => hnames other (List.mem_cons_of_mem name hother)) hstands

/-- On a way without files either all folders are there, or one is missing. -/
theorem follow_of_clear (folder : Location) {names : List String}
    (hnames : ∀ name ∈ names, Path.PlainName name)
    (hfolder : disk.Stands folder) (hclear : disk.Clear (folder ++ names)) :
    disk.follow folder names = .error .missing ∨ disk.Stands (folder ++ names) := by
  induction names generalizing folder with
  | nil => exact .inr (by simpa using hfolder)
  | cons name rest ih =>
      have hname := hnames name List.mem_cons_self
      rw [List.append_cons] at hclear ⊢
      rw [follow_name disk folder hname.ne_up hname.not_long]
      cases hnext : disk.entry? (folder ++ [name]) with
      | none => exact .inl rfl
      | some entry =>
          cases entry with
          | file content => exact absurd hnext (hclear _ (List.prefix_append _ _) content)
          | folder =>
              exact ih _ (fun other hother => hnames other (List.mem_cons_of_mem name hother))
                (hfolder.concat hnext) hclear

theorem follow_ne_tooLong (folder : Location) {names : List String}
    (hnames : ∀ name ∈ names, Path.PlainName name) :
    disk.follow folder names ≠ .error .tooLong := by
  induction names generalizing folder with
  | nil => simp [follow]
  | cons name rest ih =>
      have hname := hnames name List.mem_cons_self
      rw [follow_name disk folder hname.ne_up hname.not_long]
      split
      · simp
      · exact ih _ fun other hother => hnames other (List.mem_cons_of_mem name hother)
      · split <;> simp

/-- The location that a path spells, name by name from the folder in which it starts. -/
def site (disk : Disk) (path : Path) : Location :=
  disk.origin path ++ path.parts

theorem site_child (disk : Disk) (path : Path) (name : String) :
    disk.site (path.child name) = disk.site path ++ [name] :=
  (List.append_assoc (disk.origin path) path.parts [name]).symm

/-- A path from the top folder on starts in a folder that stands. -/
theorem stands_origin_rooted (disk : Disk) (hroot : path.root = "/") :
    disk.Stands (disk.origin path) := by
  have horigin : disk.origin path = [] := by
    rw [origin, hroot]
    exact if_neg (by decide)
  rw [horigin]
  exact stands_nil disk

/-- A path from the working folder on starts in a folder that stands if the working folder
does. -/
theorem stands_origin_of_workplace (h : disk.Stands disk.workplace) (hplain : path.Plain) :
    disk.Stands (disk.origin path) := by
  rcases hplain.start with hroot | ⟨hroot, -⟩
  · exact disk.stands_origin_rooted hroot
  · have horigin : disk.origin path = disk.workplace := by
      rw [origin, hroot]
      exact if_pos (by decide)
    rwa [horigin]

theorem locate_of_short (hshort : path.isLong = false) :
    disk.locate path = disk.follow (disk.origin path) path.parts := by
  rw [locate, hshort, if_neg Bool.false_ne_true]

theorem locate_of_stands (hplain : path.Plain) (hshort : path.isLong = false)
    (hstands : disk.Stands (disk.site path)) : disk.locate path = .ok (disk.site path) := by
  rw [locate_of_short hshort]
  exact follow_of_stands (disk.origin path) hplain.names hstands

theorem isFolder_of_stands (hplain : path.Plain) (hshort : path.isLong = false)
    (hstands : disk.Stands (disk.site path)) : disk.isFolder path = true := by
  rw [isFolder, folder?, hplain.hasZero_eq_false, if_neg Bool.false_ne_true,
    locate_of_stands hplain hshort hstands]
  simp only [hstands (disk.site path) List.prefix_rfl, if_true]

theorem settleFolder_of_stands (hplain : path.Plain) (hshort : path.isLong = false)
    (hstands : disk.Stands (disk.site path)) (error : PathError) :
    disk.settleFolder path error = (disk, .ok ()) := by
  rw [settleFolder, isFolder_of_stands hplain hshort hstands, if_pos rfl]

section

variable {name : String}

theorem locateParent_child (hplain : (path.child name).Plain)
    (hshort : (path.child name).isLong = false) (hstands : disk.Stands (disk.site path)) :
    disk.locateParent (path.child name) = .ok (disk.site path) := by
  have hlocate := locate_of_stands hplain.of_child (hplain.isLong_of_child hshort) hstands
  rw [locateParent, hshort, if_neg Bool.false_ne_true, Path.parent_child, hlocate]
  simp only [hstands (disk.site path) List.prefix_rfl, if_true]

theorem locateNew_child (hplain : (path.child name).Plain)
    (hshort : (path.child name).isLong = false) (hstands : disk.Stands (disk.site path)) :
    disk.locateNew (path.child name) =
      if disk.entry? (disk.site path ++ [name]) = none then .ok (disk.site path ++ [name])
      else .error .taken := by
  have hlast : (path.child name).parts.getLast? = some name := List.getLast?_concat
  have hup := hplain.last.ne_up
  simp only [locateNew, locateParent_child hplain hshort hstands, hlast,
    if_neg hplain.last.not_long]
  cases disk.entry? (disk.site path ++ [name]) <;> rfl

/-- The disk after the folders on the way to a location have been made, as far as they
were missing. -/
structure Cleared (disk ready : Disk) (location : Location) : Prop where
  workplace : ready.workplace = disk.workplace
  stands : ready.Stands location
  kept : ∀ other, ¬other <+: location → ready.entry? other = disk.entry? other

theorem cleared_self (h : disk.Stands location) : disk.Cleared disk location where
  workplace := rfl
  stands := h
  kept := fun _ _ => rfl

theorem Cleared.site_eq (h : disk.Cleared ready location) (path : Path) :
    ready.site path = disk.site path := by
  rw [site, site, origin, origin, h.workplace]

theorem Cleared.stands_site (h : disk.Cleared ready (disk.site path)) :
    ready.Stands (ready.site path) := by
  rw [h.site_eq]
  exact h.stands

theorem not_concat_prefix_self (init : Location) (name : String) : ¬init ++ [name] <+: init := by
  intro hprefix
  have := hprefix.length_le
  simp only [List.length_append, List.length_singleton] at this
  omega

theorem Cleared.entry?_child (h : disk.Cleared ready (disk.site path)) (name : String) :
    ready.entry? (disk.site (path.child name)) = disk.entry? (disk.site (path.child name)) := by
  rw [site_child]
  exact h.kept _ (not_concat_prefix_self (disk.site path) name)

/-- The way goes on by one folder when an entry for it is all that is new. -/
theorem Cleared.concat {made : Disk} (h : disk.Cleared ready (disk.site path))
    (hworkplace : made.workplace = ready.workplace)
    (hlast : made.entry? (disk.site (path.child name)) = some .folder)
    (hkept : ∀ other, other ≠ disk.site (path.child name) →
      made.entry? other = ready.entry? other) :
    disk.Cleared made (disk.site (path.child name)) where
  workplace := hworkplace.trans h.workplace
  stands := by
    rw [site_child] at hlast hkept ⊢
    refine Stands.concat (fun before hbefore => ?_) hlast
    rw [hkept before fun heq => not_concat_prefix_self _ _ (heq ▸ hbefore)]
    exact h.stands before hbefore
  kept := by
    rw [site_child] at hkept ⊢
    intro other hother
    rw [hkept other fun heq => hother (heq ▸ List.prefix_rfl),
      h.kept other fun hbefore => hother (hbefore.trans (List.prefix_append _ _))]

/-- In a folder on the way another one is made, unless it is there. -/
theorem Cleared.makeFolder_child (h : disk.Cleared ready (disk.site path))
    (hplain : (path.child name).Plain) (hshort : (path.child name).isLong = false)
    (hclear : disk.Clear (disk.site (path.child name))) :
    (∃ made, ready.makeFolder (path.child name) = .ok made ∧
      disk.Cleared made (disk.site (path.child name))) ∨
    ready.makeFolder (path.child name) = .error .taken ∧
      disk.Cleared ready (disk.site (path.child name)) := by
  rw [makeFolder, locateNew_child hplain hshort h.stands_site, ← site_child, h.site_eq]
  cases hentry : ready.entry? (disk.site (path.child name)) with
  | none =>
      have hlast := entry?_put_self ready (ne_nil_of_free (free_of_vacant hentry)) .folder
      exact .inl ⟨_, rfl, h.concat rfl hlast fun other hother =>
        ready.entry?_put_of_ne hother .folder⟩
  | some entry =>
      refine .inr ⟨rfl, h.concat rfl ?_ fun _ _ => rfl⟩
      cases entry with
      | folder => exact hentry
      | file content =>
          rw [h.entry?_child] at hentry
          exact absurd hentry (hclear _ List.prefix_rfl content)

theorem makeFolder_missing (hplain : (path.child name).Plain)
    (hshort : (path.child name).isLong = false)
    (hmissing : disk.follow (disk.origin path) path.parts = .error .missing) :
    disk.makeFolder (path.child name) = .error .missing := by
  have hlocate : disk.locate path = .error .missing := by
    rw [locate_of_short (hplain.isLong_of_child hshort), hmissing]
  simp [makeFolder, locateNew, locateParent, hshort, Path.parent_child, hlocate, Except.map]

/-- The folder in which a path starts is there, so it is not made. -/
theorem makeFolder_origin (hparts : path.parts = []) (hshort : path.isLong = false)
    (hstands : disk.Stands (disk.origin path)) : disk.makeFolder path = .error .taken := by
  have hparent : path.parent = path := by
    rw [Path.parent, hparts, List.dropLast_nil, ← hparts]
  have hlocate : disk.locate path = .ok (disk.origin path) := by
    rw [locate_of_short hshort, hparts]
    rfl
  have hfolder : disk.entry? (disk.origin path) = some .folder :=
    hstands (disk.origin path) List.prefix_rfl
  simp [makeFolder, locateNew, locateParent, hshort, hparent, hparts, hlocate, hfolder, Except.map]

end

/-- The folders of a plain path can be made where no file lies on the way. -/
theorem makeFolders_plain (hplain : path.Plain) (hshort : path.isLong = false)
    (horigin : disk.Stands (disk.origin path)) (hclear : disk.Clear (disk.site path)) :
    ∃ ready, disk.makeFolders path = (ready, .ok ()) ∧ disk.Cleared ready (disk.site path) := by
  have hzero := hplain.hasZero_eq_false
  obtain ⟨root, names⟩ := path
  induction names using List.reverseRecOn with
  | nil =>
      have hstands : disk.Stands (disk.site ⟨root, []⟩) := by
        rw [site, List.append_nil]
        exact horigin
      refine ⟨disk, ?_, cleared_self hstands⟩
      rw [makeFolders, hzero, if_neg Bool.false_ne_true, makeFolder_origin rfl hshort horigin]
      exact settleFolder_of_stands hplain hshort hstands .taken
  | append_singleton init name ih =>
      have hchild : (⟨root, init ++ [name]⟩ : Path) = Path.child ⟨root, init⟩ name := rfl
      rw [hchild] at hplain hshort hzero hclear ⊢
      have hclearInit : disk.Clear (disk.site ⟨root, init⟩) := fun before hbefore =>
        hclear before (hbefore.trans (by simp [site_child]))
      rw [makeFolders, hzero, if_neg Bool.false_ne_true]
      rcases follow_of_clear _ hplain.of_child.names horigin hclearInit with hmissing | hstands
      · -- The folders above come first; then this one is made among them.
        obtain ⟨above, habove, hcleared⟩ := ih hplain.of_child (hplain.isLong_of_child hshort)
          horigin hclearInit hplain.of_child.hasZero_eq_false
        have hparts := Path.parts_child_ne_nil ⟨root, init⟩ name
        simp only [makeFolder_missing hplain hshort hmissing, dif_neg hparts, Path.parent_child,
          habove]
        rcases hcleared.makeFolder_child hplain hshort hclear with
          ⟨made, hmade, hlast⟩ | ⟨htaken, hthere⟩
        · exact ⟨made, by simp only [hmade], hlast⟩
        · refine ⟨above, ?_, hthere⟩
          simp only [htaken, settleFolder_of_stands hplain hshort hthere.stands_site]
      · rcases (cleared_self hstands).makeFolder_child hplain hshort hclear with
          ⟨made, hmade, hlast⟩ | ⟨htaken, hthere⟩
        · rw [hmade]
          exact ⟨made, rfl, hlast⟩
        · rw [htaken]
          exact ⟨disk, settleFolder_of_stands hplain hshort hthere.stands_site .taken, hthere⟩

/-- A plain path starts in nobody's home. -/
theorem writtenOut_plain (hplain : path.Plain) : disk.writtenOut path = path := by
  obtain ⟨root, parts⟩ := path
  rcases hplain.start with hroot | ⟨hroot, hfirst⟩
  · obtain rfl : root = "/" := hroot
    rfl
  · obtain rfl : root = "" := hroot
    cases parts with
    | nil => rfl
    | cons first rest =>
        obtain ⟨-, hhome⟩ := hfirst first rfl
        unfold writtenOut
        split
        · rename_i other more hparts
          cases hparts
          split
          · rename_i owner htilde
            exact absurd (by rw [htilde]; rfl) hhome
          · rfl
        · rfl

theorem placeOfTable_plain (hplain : path.Plain) (hparts : path.parts ≠ [])
    (hshort : path.isLong = false) : disk.placeOfTable path = .ok (.onDisk path.text) := by
  have hlocate : disk.locate path ≠ .error .tooLong := by
    rw [locate_of_short hshort]
    exact follow_ne_tooLong (disk.origin path) hplain.names
  have hplace : placeOfText path.text = .ok (.onDisk path.text) := by
    rw [placeOfText, Address.ofText?_text hplain hparts]
  simp only [placeOfTable, writtenOut_plain hplain, Address.isMeant_text hplain hparts,
    Bool.false_eq_true, if_false]
  split
  · rfl
  · contradiction
  · exact hplace

/-- A table at a plain path in a folder that stands goes to the place that the path
spells. -/
theorem locateTable_child {name : String} (hplain : (path.child name).Plain)
    (hshort : (path.child name).isLong = false) (hstands : disk.Stands (disk.site path))
    (hfree : disk.entry? (disk.site (path.child name)) ≠ some .folder) :
    disk.locateTable (path.child name) = .ok (some (disk.site (path.child name))) := by
  have hparts := Path.parts_child_ne_nil path name
  have hfile : disk.locateFile (path.child name) = .ok (disk.site (path.child name)) := by
    rw [site_child] at hfree ⊢
    exact locateFile_eq_ok_iff.2 ⟨disk.site path, name, locateParent_child hplain hshort hstands,
      List.getLast?_concat, hplain.last.ne_up, hplain.last.2.2.2, hfree, rfl⟩
  have hopen : disk.openOnDisk (path.child name).text = .ok (disk.site (path.child name)) := by
    refine openOnDisk_eq_ok_iff.2 ⟨?_, ?_, ?_, ?_⟩
    · rw [Address.isMeant_text hplain hparts]
      exact Bool.false_ne_true
    · simpa using hplain.zero_notMem_text hparts
    · intro hempty
      have htext := hplain.ofText_text hparts
      rw [String.isEmpty_iff.1 hempty] at htext
      exact hparts (congrArg Path.parts htext.symm)
    · rwa [hplain.ofText_text hparts]
  rw [locateTable, placeOfTable_plain hplain hparts hshort]
  simp only [hopen, Except.map]

/-- At a plain path the folder for the tables of a run can be made, and they have their
places in it, if no file lies on the way and no folder where the tables go. -/
theorem tables_of_plain {out : Path} (hplain : out.Plain) (hshort : out.summary.isLong = false)
    (horigin : disk.Stands (disk.origin out)) (hclear : disk.Clear (disk.site out.logs))
    (htrace : disk.entry? (disk.site out.trace) ≠ some .folder)
    (hsummary : disk.entry? (disk.site out.summary) ≠ some .folder) :
    ∃ ready, disk.makeFolders out.logs = (ready, .ok ()) ∧
      ready.locateTable out.trace = .ok (some (disk.site out.trace)) ∧
      ready.locateTable out.summary = .ok (some (disk.site out.summary)) ∧
      ready.entry? (disk.site out.trace) = disk.entry? (disk.site out.trace) := by
  have hlogs : out.logs.isLong = false := hplain.summary.isLong_of_child hshort
  obtain ⟨ready, hmade, hcleared⟩ := makeFolders_plain hplain.logs hlogs horigin hclear
  have htable {name : String} (hplain : (out.logs.child name).Plain)
      (hshort : (out.logs.child name).isLong = false)
      (hfree : disk.entry? (disk.site (out.logs.child name)) ≠ some .folder) :
      ready.locateTable (out.logs.child name) =
        .ok (some (disk.site (out.logs.child name))) := by
    rw [← hcleared.site_eq]
    apply locateTable_child hplain hshort hcleared.stands_site
    rwa [hcleared.site_eq, hcleared.entry?_child]
  exact ⟨ready, hmade, htable hplain.trace (Path.isLong_trace hshort) htrace,
    htable hplain.summary hshort hsummary, hcleared.entry?_child _⟩

/-- The two tables have different names. -/
theorem tables_apart (disk : Disk) (out : Path) :
    disk.site out.trace ≠ disk.site out.summary := by
  intro heq
  have hnames := List.append_cancel_left (List.append_cancel_left heq)
  simp at hnames

/-- An output folder for a run: its logs folder can be made, which yields the disk
`ready`, and there the tables of a run go to two locations on this disk, with nothing yet
where the trace goes.  The logs folder is made where the path leads as it stands, while a
table goes where its path leads once a home is written out or an address is read.  So the
paths that start in a home or read as addresses are left out, except where the logs folder
of that other place is on this disk already. -/
structure Fresh (disk ready : Disk) (out : Path) (trace summary : Location) : Prop where
  made : disk.makeFolders out.logs = (ready, .ok ())
  opened : ready.locateTable out.trace = .ok (some trace)
  summed : ready.locateTable out.summary = .ok (some summary)
  apart : trace ≠ summary
  vacant : ready.entry? trace = none

/-- An output folder takes the tables of a run, whatever lies there already: its logs folder can
be made, which yields the disk `ready`, and there both tables have a place.  Paths that start
in a home or read as addresses are left out as they are by `Fresh`, save those that begin with
a single letter and a colon and lead to tables already there. -/
structure Takes (disk ready : Disk) (out : Path) : Prop where
  made : disk.makeFolders out.logs = (ready, .ok ())
  opened : ∃ place, ready.locateTable out.trace = .ok place
  summed : ∃ place, ready.locateTable out.summary = .ok place

theorem Fresh.takes {out : Path} {trace summary : Location}
    (h : disk.Fresh ready out trace summary) : disk.Takes ready out :=
  ⟨h.made, ⟨_, h.opened⟩, ⟨_, h.summed⟩⟩

/-- The folder at a plain path takes the tables if no file lies on the way, and no folder where
they go. -/
theorem takes_of_plain {out : Path} (hplain : out.Plain) (hshort : out.summary.isLong = false)
    (horigin : disk.Stands (disk.origin out)) (hclear : disk.Clear (disk.site out.logs))
    (htrace : disk.entry? (disk.site out.trace) ≠ some .folder)
    (hsummary : disk.entry? (disk.site out.summary) ≠ some .folder) :
    ∃ ready, disk.Takes ready out := by
  obtain ⟨ready, hmade, hopened, hsummed, -⟩ :=
    tables_of_plain hplain hshort horigin hclear htrace hsummary
  exact ⟨ready, hmade, ⟨_, hopened⟩, ⟨_, hsummed⟩⟩

/-- The folder at a plain path is fresh if no file lies on the way, nothing where the trace
goes, and no folder where the summary goes. -/
theorem fresh_of_plain {out : Path} (hplain : out.Plain) (hshort : out.summary.isLong = false)
    (horigin : disk.Stands (disk.origin out)) (hclear : disk.Clear (disk.site out.logs))
    (htrace : disk.entry? (disk.site out.trace) = none)
    (hsummary : disk.entry? (disk.site out.summary) ≠ some .folder) :
    ∃ ready, disk.Fresh ready out (disk.site out.trace) (disk.site out.summary) := by
  obtain ⟨ready, hmade, hopened, hsummed, hkept⟩ :=
    tables_of_plain hplain hshort horigin hclear (free_of_vacant htrace) hsummary
  exact ⟨ready, hmade, hopened, hsummed, disk.tables_apart out, hkept.trans htrace⟩

theorem site_blank (workplace : Location) (homes : List (String × Path)) (hroot : path.root = "") :
    site (.blank workplace homes) path = workplace ++ path.parts := by
  rw [site, origin, hroot]
  exact congrArg (· ++ path.parts) (if_pos (by decide))

/-- Where nothing is but the working folder, every plain path from there on gives a fresh
folder. -/
theorem fresh_blank (workplace : Location) (homes : List (String × Path)) {out : Path}
    (hplain : out.Plain) (hroot : out.root = "") (hshort : out.summary.isLong = false) :
    ∃ ready, Disk.Fresh (.blank workplace homes) ready out (workplace ++ out.trace.parts)
      (workplace ++ out.summary.parts) := by
  have hsite (name : String) : site (.blank workplace homes) (out.logs.child name) =
      workplace ++ (out.logs.child name).parts := site_blank workplace homes hroot
  have hvacant (name : String) :
      entry? (.blank workplace homes) (site (.blank workplace homes) (out.logs.child name)) =
        none := by
    rw [hsite, entry?_blank, if_neg]
    intro hprefix
    have hlength := hprefix.length_le
    have hpos := List.length_pos_iff.2 (Path.parts_child_ne_nil out.logs name)
    simp only [List.length_append] at hlength
    omega
  have horigin := stands_origin_of_workplace (stands_blank workplace homes) hplain
  have hfresh := fresh_of_plain hplain hshort horigin (clear_blank workplace homes _)
    (hvacant "trace_log.parquet") (free_of_vacant (hvacant "run_summary.parquet"))
  rwa [Path.trace, hsite, Path.summary, hsite] at hfresh

end Disk

end RiverPuzzle
