/-
  Loading a directory, whatever the order in which its entries are listed.

  1. An entry holds a document exactly where it is a regular file whose name ends in `.json` and
     starts neither with `~` nor with the comment mark (`documentName?_eq_some_iff`).
  2. The names of the documents are sorted, and texts are in the order of their bytes.  What is in
     this order and has the same members is the same, so that the names come in one order for all
     orders of the entries (`Selects.unique`).
  3. The documents are read one after another, up to the first that fails.  On a disk that shows the
     same texts as long as it is only looked at, that is a pass over the names (`run_sheetsOfAll`).

A file tree is such a disk, in whatever order its entries stand (`shows_tree_of_perm`).
-/
import GameSheets.CommandLine.Run
import GameSheets.Files.Tree
import GameSheets.Proofs.Outcome
import GameSheets.Proofs.Text.ByteOrder

namespace GameSheets

/-! ## Entries that hold documents -/

/-- A name ends in what stands behind its last dot, unless that dot leads it. -/
theorem Path.ending?_eq_some_iff {name ending : String} :
    Path.ending? name = some ending ↔
      (∃ stem, stem ≠ [] ∧ name.toList = stem ++ '.' :: ending.toList) ∧ '.' ∉ ending.toList := by
  unfold Path.ending? Path.splitName
  cases hcut : Text.splitLast? '.' name.toList with
  | none =>
    have hdot : '.' ∉ name.toList := Text.splitLast?_eq_none_iff.mp hcut
    constructor
    · rintro ⟨⟩
    · rintro ⟨⟨stem, -, hname⟩, -⟩
      exact absurd (by rw [hname]; simp) hdot
  | some cut =>
    obtain ⟨stem, tail⟩ := cut
    obtain ⟨hname, htail⟩ := Text.splitLast?_eq_some_iff.mp hcut
    constructor
    · intro h
      dsimp only at h
      split at h
      · cases h
      · rename_i hstem
        obtain rfl := Option.some.inj h
        rw [String.toList_ofList]
        exact ⟨⟨stem, hstem, hname⟩, htail⟩
    · rintro ⟨⟨stem', hstem', hname'⟩, hending⟩
      have hcut' : Text.splitLast? '.' name.toList = some (stem', ending.toList) :=
        Text.splitLast?_eq_some_iff.mpr ⟨hname', hending⟩
      obtain ⟨rfl, rfl⟩ := Prod.mk.inj (Option.some.inj (hcut.symm.trans hcut'))
      dsimp only
      rw [if_neg hstem', String.ofList_toList]

namespace DirectoryEntry

/-- The entry is a regular file of this name, and one by this name is read: it has the ending `json`
behind something else, and neither a lock's mark nor the comment mark leads it. -/
structure IsDocument (entry : DirectoryEntry) (name : String) : Prop where
  named : entry.name = some name
  regular : entry.isFile = true
  ending : ∃ stem, stem ≠ [] ∧ name.toList = stem ++ ".json".toList
  not_lock : name.toList.head? ≠ some '~'
  not_comment : name.toList.head? ≠ some '#'

theorem documentName?_eq_some_iff {entry : DirectoryEntry} {name : String} :
    entry.documentName? = some name ↔ entry.IsDocument name := by
  have hending : Path.ending? name = some "json" ↔
      ∃ stem, stem ≠ [] ∧ name.toList = stem ++ ".json".toList := by
    rw [Path.ending?_eq_some_iff, and_iff_left (by decide)]
    rfl
  rw [documentName?, Option.filter_eq_some_iff]
  simp only [Bool.and_eq_true, bne_iff_ne, Bool.not_eq_true', beq_iff_eq, hending]
  constructor
  · rintro ⟨hnamed, ⟨⟨hlock, hcomment⟩, hregular⟩, hends⟩
    exact ⟨hnamed, hregular, hends, hlock, by simpa [isComment] using hcomment⟩
  · rintro ⟨hnamed, hregular, hends, hlock, hcomment⟩
    exact ⟨hnamed, ⟨⟨hlock, by simpa [isComment] using hcomment⟩, hregular⟩, hends⟩

instance (entry : DirectoryEntry) (name : String) : Decidable (entry.IsDocument name) :=
  decidable_of_iff _ documentName?_eq_some_iff

end DirectoryEntry

/-! ## Trees whose entries stand in another order -/

namespace FileTree

/-- The directories that are located are listed, each with its entries in the order of the tree. -/
theorem list?_eq_some {tree : FileTree} {path : String} {listing : List DirectoryEntry} :
    tree.list? path = some listing ↔
      tree.isDirectory path = true ∧ ∃ location, tree.locate path = .ok location ∧
        tree.entries.filterMap (child? location) = listing := by
  rw [list?]
  by_cases hdirectory : tree.isDirectory path = true
  · rw [if_pos hdirectory, and_iff_right hdirectory]
    cases tree.locate path with
    | error fault => simp
    | ok location => simp
  · rw [if_neg hdirectory]
    simp [hdirectory]

section

variable {tree other : FileTree} (hnodup : (tree.entries.map (·.1)).Nodup)
  (hperm : other.entries.Perm tree.entries)
  (hworking : other.workingDirectory = tree.workingDirectory)

include hnodup hperm

theorem lookup?_eq_of_perm (location : Location) :
    other.lookup? location = tree.lookup? location := by
  have hone : {entry ∈ tree.entries | decide (entry.1 = location) = true}.Subsingleton := by
    rintro entry ⟨hentry, hat⟩ entry' ⟨hentry', hat'⟩
    have hsame : entry.1 = entry'.1 := (of_decide_eq_true hat).trans (of_decide_eq_true hat').symm
    exact List.inj_on_of_nodup_map hnodup hentry hentry' hsame
  unfold lookup?
  rw [List.find?_eq_find?_of_perm hperm.symm hone]

theorem walk_eq_of_perm (location : Location) (steps : List PathStep) :
    other.walk location steps = tree.walk location steps := by
  induction steps generalizing location with
  | nil => rfl
  | cons step rest ih =>
    unfold walk
    rw [lookup?_eq_of_perm hnodup hperm]
    cases step <;> simp only [ih]

include hworking

theorem locate_eq_of_perm (path : String) : other.locate path = tree.locate path := by
  unfold locate
  rw [hworking, walk_eq_of_perm hnodup hperm]

theorem entryAt?_eq_of_perm (path : String) : other.entryAt? path = tree.entryAt? path := by
  unfold entryAt?
  rw [locate_eq_of_perm hnodup hperm hworking]
  simp only [lookup?_eq_of_perm hnodup hperm]

end

end FileTree

namespace Load

/-! ## The names in order -/

/-- These are the names of the documents among the entries, each as often as it is there, in the
order of their bytes. -/
structure Selects (entries : List DirectoryEntry) (names : List String) : Prop where
  inOrder : names.Pairwise fun name other => Text.bytes name ≤ Text.bytes other
  count_eq : ∀ name, names.count name = entries.countP fun entry => decide (entry.IsDocument name)

/-- The names of the documents in a listing, in their order. -/
def names (listing : List DirectoryEntry) : List String :=
  (listing.filterMap (·.documentName?)).mergeSort fun name other => decide (name ≤ other)

theorem documents_eq (directory : String) (listing : List DirectoryEntry) :
    documents directory listing = (names listing).map (Path.join directory) :=
  rfl

theorem names_perm (listing : List DirectoryEntry) :
    (names listing).Perm (listing.filterMap (·.documentName?)) :=
  List.mergeSort_perm _ _

theorem pairwise_names (listing : List DirectoryEntry) : (names listing).Pairwise (· ≤ ·) := by
  have htrans : ∀ first second third : String, decide (first ≤ second) = true →
      decide (second ≤ third) = true → decide (first ≤ third) = true := by
    intro first second third hle hle'
    exact decide_eq_true (le_trans (of_decide_eq_true hle) (of_decide_eq_true hle'))
  have htotal : ∀ first second : String,
      (decide (first ≤ second) || decide (second ≤ first)) = true := by
    intro first second
    rw [Bool.or_eq_true, decide_eq_true_iff, decide_eq_true_iff]
    exact le_total first second
  exact (List.pairwise_mergeSort htrans htotal _).imp fun h => of_decide_eq_true h

theorem selects_of_perm {listing : List DirectoryEntry} {names : List String}
    (hsorted : names.Pairwise (· ≤ ·)) (hperm : names.Perm (listing.filterMap (·.documentName?))) :
    Selects listing names where
  inOrder := hsorted.imp fun h => Text.bytes_le_bytes_iff.mpr h
  count_eq name := by
    rw [hperm.count_eq, List.count_filterMap]
    refine List.countP_congr fun entry _ => ?_
    rw [beq_iff_eq, decide_eq_true_iff, DirectoryEntry.documentName?_eq_some_iff]

theorem selects_names (listing : List DirectoryEntry) : Selects listing (names listing) :=
  selects_of_perm (pairwise_names listing) (names_perm listing)

/-- Entries select the same names in whatever order they are listed. -/
theorem Selects.of_perm {listing entries : List DirectoryEntry} {names : List String}
    (h : Selects entries names) (hperm : listing.Perm entries) : Selects listing names :=
  ⟨h.inOrder, fun name => by rw [h.count_eq, hperm.countP_eq]⟩

/-- There is one list of names that entries select. -/
theorem Selects.unique {entries : List DirectoryEntry} {names others : List String}
    (h : Selects entries names) (h' : Selects entries others) : names = others := by
  have hperm : names.Perm others :=
    List.perm_iff_count.mpr fun name => by rw [h.count_eq, h'.count_eq]
  refine hperm.eq_of_pairwise (fun name other _ _ hle hge => ?_) h.inOrder h'.inOrder
  exact le_antisymm (Text.bytes_le_bytes_iff.mp hle) (Text.bytes_le_bytes_iff.mp hge)

/-! ## Reading in order -/

/-- What the document of a name comes to: its sheets, or why they cannot be had. -/
def held (directory : String) (content : String → Option String) (name : String) :
    Except LoadError (List Sheet) :=
  match content name with
  | none => .error (.unreadable (Path.join directory name))
  | some text => (Workbook.readSheets text).mapError (LoadError.invalid (Path.join directory name))

/-- The outcome of documents in order: the sheets of one after another if all can be had, or else
the error of the first of which they cannot be had. -/
inductive InOrder (load : String → Except LoadError (List Sheet)) (names : List String) :
    Except LoadError (List Sheet) → Prop
  | all {parts : List (List Sheet)}
      (hparts : List.Forall₂ (fun name part => load name = .ok part) names parts) :
      InOrder load names (.ok parts.flatten)
  | first {before after : List String} {name : String} {cause : LoadError}
      (hnames : names = before ++ name :: after)
      (hbefore : ∀ other ∈ before, ∃ part, load other = .ok part)
      (hname : load name = .error cause) : InOrder load names (.error cause)

/-- The outcome in order is that of a pass. -/
theorem inOrder_iff {load : String → Except LoadError (List Sheet)} {names : List String}
    {outcome : Except LoadError (List Sheet)} :
    InOrder load names outcome ↔ (names.mapM load).map List.flatten = outcome := by
  constructor
  · rintro (⟨hparts⟩ | ⟨hnames, hbefore, hname⟩)
    · rw [Outcome.mapM_eq_ok.mpr hparts]
      rfl
    · rw [Outcome.map_eq_error, Outcome.mapM_eq_error]
      exact ⟨_, _, _, hnames, hbefore, hname⟩
  · rintro rfl
    cases houtcome : names.mapM load with
    | error cause =>
      obtain ⟨before, name, after, hnames, hbefore, hname⟩ := Outcome.mapM_eq_error.mp houtcome
      exact .first hnames hbefore hname
    | ok parts => exact .all (Outcome.mapM_eq_ok.mp houtcome)

/-! ## Disks -/

/-- In this state the disk shows a directory that has these entries in this order, and behind each
name of it this text or none; to look at them leaves the state as it is. -/
structure Shows {σ : Type} (disk : Disk (StateM σ)) (state : σ) (directory : String)
    (listing : List DirectoryEntry) (content : String → Option String) : Prop where
  isDirectory : (disk.isDirectory directory).run state = (true, state)
  entries : (disk.entries directory).run state = (some listing, state)
  read : ∀ name, (disk.read (Path.join directory name)).run state = (content name, state)

/-- A file tree shows each of its directories. -/
theorem shows_tree {tree : FileTree} {directory : String} {listing : List DirectoryEntry}
    (h : tree.list? directory = some listing) :
    Shows FileTree.disk tree directory listing fun name =>
      tree.read? (Path.join directory name) where
  isDirectory := by
    show (tree.isDirectory directory, tree) = (true, tree)
    rw [(FileTree.list?_eq_some.mp h).1]
  entries := by
    show (tree.list? directory, tree) = (some listing, tree)
    rw [h]
  read _ := rfl

/-- A tree whose entries stand in another order shows the same directories in some order. -/
theorem shows_tree_of_perm {tree other : FileTree} (hnodup : (tree.entries.map (·.1)).Nodup)
    (hperm : other.entries.Perm tree.entries)
    (hworking : other.workingDirectory = tree.workingDirectory) {directory : String}
    {listing : List DirectoryEntry} (h : tree.list? directory = some listing) :
    ∃ turned, turned.Perm listing ∧ Shows FileTree.disk other directory turned fun name =>
      tree.read? (Path.join directory name) := by
  have hentryAt := FileTree.entryAt?_eq_of_perm hnodup hperm hworking
  have hread : other.read? = tree.read? := by
    funext path
    rw [FileTree.read?, FileTree.read?, hentryAt]
  have hdirectory : other.isDirectory directory = tree.isDirectory directory := by
    rw [FileTree.isDirectory, FileTree.isDirectory, hentryAt]
  obtain ⟨his, location, hlocation, rfl⟩ := FileTree.list?_eq_some.mp h
  have hlist : other.list? directory = some (other.entries.filterMap (FileTree.child? location)) :=
    FileTree.list?_eq_some.mpr ⟨hdirectory.trans his, location,
      (FileTree.locate_eq_of_perm hnodup hperm hworking directory).trans hlocation, rfl⟩
  rw [← hread]
  exact ⟨_, hperm.filterMap _, shows_tree hlist⟩

section

variable {σ : Type} {disk : Disk (StateM σ)} {state : σ} {directory : String}
  {listing : List DirectoryEntry} {content : String → Option String}

theorem run_sheetsOf (h : Shows disk state directory listing content) (name : String) :
    (sheetsOf disk (Path.join directory name)).run state =
      (held directory content name, state) := by
  unfold sheetsOf held
  rw [StateT.run_bind, h.read name]
  cases content name <;> rfl

/-- Documents are read one after another, up to the first that fails. -/
theorem run_sheetsOfAll (h : Shows disk state directory listing content) (names : List String) :
    (sheetsOfAll disk (names.map (Path.join directory))).run state =
      ((names.mapM (held directory content)).map List.flatten, state) := by
  induction names with
  | nil => rfl
  | cons name rest ih =>
    rw [List.map_cons, sheetsOfAll, List.mapM_cons, StateT.run_bind, run_sheetsOf h]
    cases held directory content name with
    | error cause => rfl
    | ok sheets =>
      show (sheetsOfAll disk (rest.map (Path.join directory)) >>= _).run state = _
      rw [StateT.run_bind, ih]
      cases rest.mapM (held directory content) <;> rfl

theorem run_sheets (h : Shows disk state directory listing content) :
    (sheets disk directory).run state =
      (((names listing).mapM (held directory content)).map List.flatten, state) := by
  unfold sheets
  rw [StateT.run_bind, h.isDirectory]
  show (disk.entries directory >>= _).run state = _
  rw [StateT.run_bind, h.entries]
  show (sheetsOfAll disk (documents directory listing)).run state = _
  rw [documents_eq]
  exact run_sheetsOfAll h (names listing)

end

/-- What a run has of what it loads: the workbook with its export time, or the error with the
input. -/
def exported (options : CommandLine.Options) (now : Timestamp)
    (outcome : Except LoadError (List Sheet)) : Except CommandLine.RunError Workbook :=
  match outcome with
  | .ok sheets => .ok ⟨sheets, some (options.clock?.getD now)⟩
  | .error cause => .error (.load options.input cause)

theorem run_workbook {σ : Type} {disk : Disk (StateM σ)} {state : σ}
    {options : CommandLine.Options} {outcome : Except LoadError (List Sheet)}
    (h : (sheets disk options.input).run state = (outcome, state)) (now : Timestamp) :
    (options.workbook disk now).run state = (exported options now outcome, state) := by
  unfold CommandLine.Options.workbook
  rw [StateT.run_bind, h]
  cases outcome <;> rfl

/-- A directory with these entries and texts loads as its documents in the order of the bytes of
their names, up to the first that cannot be read or is no workbook.  Every disk that shows them, in
whatever order it lists the entries, comes to this same outcome. -/
theorem sheets_inByteOrder (directory : String) (entries : List DirectoryEntry)
    (content : String → Option String) :
    ∃ names outcome, Selects entries names ∧ InOrder (held directory content) names outcome ∧
      ∀ {σ : Type} {disk : Disk (StateM σ)} {state : σ} {listing : List DirectoryEntry},
        listing.Perm entries → Shows disk state directory listing content →
          (sheets disk directory).run state = (outcome, state) ∧
            ∀ (options : CommandLine.Options) (now : Timestamp), options.input = directory →
              (options.workbook disk now).run state = (exported options now outcome, state) := by
  refine ⟨names entries, _, selects_names entries, inOrder_iff.mpr rfl, ?_⟩
  intro σ disk state listing hperm hshows
  have hnames : names listing = names entries :=
    (selects_names listing).unique ((selects_names entries).of_perm hperm)
  have hsheets := run_sheets hshows
  rw [hnames] at hsheets
  refine ⟨hsheets, ?_⟩
  rintro options now rfl
  exact run_workbook hsheets now

/-- A tree of one directory, with these files and another directory in it. -/
def shelf (files : List (String × String)) : FileTree where
  entries := (["in"], .directory) :: (["in", "c.json"], .directory) ::
    files.map fun file => (["in", file.1], .file file.2.toUTF8)
  workingDirectory := []

/-- Two documents among files that are passed over. -/
def documentsAmongOthers : List (String × String) :=
  [("b.json", "\x7b\"tables\":[\x7b\"name\":\"B\",\"columns\":[\"Id\"]\x7d]\x7d"),
    ("~a.json", "\x7b"), ("#old.json", "\x7b"), (".json", "\x7b"), ("notes.txt", "\x7b"),
    ("a.json", "\x7b\"tables\":[\x7b\"name\":\"A\",\"columns\":[\"Id\"]\x7d]\x7d")]

/-- The two documents come in the same order when the directory is listed from its other end. -/
theorem shelf_inByteOrder :
    (sheets FileTree.disk "in").run (shelf documentsAmongOthers) =
      (.ok [⟨"A", ["Id"], []⟩, ⟨"B", ["Id"], []⟩], shelf documentsAmongOthers) ∧
    (sheets FileTree.disk "in").run (shelf documentsAmongOthers.reverse) =
      (.ok [⟨"A", ["Id"], []⟩, ⟨"B", ["Id"], []⟩], shelf documentsAmongOthers.reverse) := by
  let tree := shelf documentsAmongOthers
  let turned := shelf documentsAmongOthers.reverse
  let listing : List DirectoryEntry :=
    [⟨some "c.json", false⟩, ⟨some "b.json", true⟩, ⟨some "~a.json", true⟩,
      ⟨some "#old.json", true⟩, ⟨some ".json", true⟩, ⟨some "notes.txt", true⟩,
      ⟨some "a.json", true⟩]
  let content (name : String) : Option String := tree.read? (Path.join "in" name)
  have hlisting : tree.list? "in" = some listing := by decide +kernel
  have hperm : turned.entries.Perm tree.entries := by
    have hfiles := (documentsAmongOthers.reverse_perm.map fun file =>
      ((["in", file.1], .file file.2.toUTF8) : Location × TreeEntry))
    exact (hfiles.cons _).cons _
  have hnodup : (tree.entries.map (·.1)).Nodup := by decide +kernel
  obtain ⟨listing', hlisting', hturned⟩ := shows_tree_of_perm hnodup hperm rfl hlisting
  obtain ⟨names, outcome, hselects, hinOrder, hall⟩ := sheets_inByteOrder "in" listing content
  have hnames : names = ["a.json", "b.json"] :=
    hselects.unique (selects_of_perm (by decide +kernel) (by decide +kernel))
  have houtcome : (["a.json", "b.json"].mapM (held "in" content)).map List.flatten =
      .ok [⟨"A", ["Id"], []⟩, ⟨"B", ["Id"], []⟩] := by decide +kernel
  rw [hnames, inOrder_iff, houtcome] at hinOrder
  subst hinOrder
  exact ⟨(hall (List.Perm.refl _) (shows_tree hlisting)).1, (hall hlisting' hturned).1⟩

end Load

end GameSheets
