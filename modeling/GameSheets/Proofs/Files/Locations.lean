/-
  Where paths lead, and what stands there after a run.

  1. A plain name at the end of a path is one step, to an entry of the directory in front of it
     (`steps_join_of_isPlain`).  A name with slashes is several steps, of which the last is what
     stands behind the last slash (`exists_steps_join_of_slash`).
  2. Directories stay, whatever a run does: one is made where nothing stands, and a file is put
     where none does (`Stays`).  So a path that was followed once can be followed ever after
     (`Stays.locate_eq_ok`).
  3. After a run that wrote all of a plan, every file of it stands at its place, where it can be
     read by its path (`places_of_written`, `IsPlace.read?_eq`).
-/
import GameSheets.Proofs.Files.Writing

namespace GameSheets

/-! ## Steps of paths -/

/-- A text with one empty piece is empty. -/
theorem Text.eq_nil_of_pieces_eq {isSeparator : Char → Bool} {text : List Char}
    (h : pieces isSeparator text = [[]]) : text = [] := by
  cases text with
  | nil => rfl
  | cons c rest =>
    rw [pieces] at h
    split at h
    · exact absurd (List.cons.inj h).2 (pieces_ne_nil _ _)
    · split at h
      · cases (List.cons.inj h).1
      · cases (List.cons.inj h).1

namespace Path

/-- The name of one entry of a directory. -/
structure IsPlain (name : String) : Prop where
  ne_empty : name ≠ ""
  ne_here : name ≠ "."
  ne_up : name ≠ ".."
  no_slash : '/' ∉ name.toList

instance (name : String) : Decidable (IsPlain name) :=
  decidable_of_iff (name ≠ "" ∧ name ≠ "." ∧ name ≠ ".." ∧ '/' ∉ name.toList)
    ⟨fun ⟨hempty, hhere, hup, hslash⟩ => ⟨hempty, hhere, hup, hslash⟩,
      fun ⟨hempty, hhere, hup, hslash⟩ => ⟨hempty, hhere, hup, hslash⟩⟩

variable {name : String}

theorem IsPlain.step?_eq (h : IsPlain name) : step? name.toList = some (.name name) := by
  have hempty : name.toList ≠ [] := fun heq => h.ne_empty (String.toList_eq_nil_iff.mp heq)
  have hhere : name.toList ≠ ['.'] := fun heq => h.ne_here (String.toList_inj.mp heq)
  have hup : name.toList ≠ ['.', '.'] := fun heq => h.ne_up (String.toList_inj.mp heq)
  rw [step?, if_neg (not_or.mpr ⟨hempty, hhere⟩), if_neg hup, String.ofList_toList]

theorem IsPlain.pieces_eq (h : IsPlain name) :
    Text.pieces (· == '/') name.toList = [name.toList] := by
  apply Text.pieces_of_forall_not
  intro c hc
  rw [beq_eq_false_iff_ne]
  rintro rfl
  exact h.no_slash hc

/-- The name of a document is plain where the name of its sheet has no slash. -/
theorem isPlain_append_json (h : '/' ∉ name.toList) : IsPlain (name ++ ".json") := by
  have hne : ∀ other : String, other.length < 5 → name ++ ".json" ≠ other := by
    rintro other hother rfl
    rw [String.length_append] at hother
    exact absurd (Nat.lt_of_le_of_lt (Nat.le_add_left _ _) hother) (by decide)
  refine ⟨hne _ (by decide), hne _ (by decide), hne _ (by decide), ?_⟩
  rw [String.toList_append, List.mem_append]
  rintro (hname | hending)
  · exact h hname
  · exact absurd hending (by decide)

theorem toList_append_slash_append (path name : String) :
    (path ++ "/" ++ name).toList = path.toList ++ '/' :: name.toList := by
  simp

/-- A plain name behind a slash is one more step. -/
theorem steps_slash_append (path : String) (h : IsPlain name) :
    steps (path ++ "/" ++ name) = steps (path ++ "/") ++ [.name name] := by
  have hslash : (path ++ "/").toList = path.toList ++ '/' :: [] := by simp
  have hend : step? [] = none := rfl
  unfold steps
  rw [toList_append_slash_append, hslash, Text.pieces_append_cons (by rfl),
    Text.pieces_append_cons (by rfl), h.pieces_eq]
  cases hpieces : Text.pieces (· == '/') path.toList with
  | nil => exact absurd hpieces (Text.pieces_ne_nil _ _)
  | cons first rest =>
    simp [Text.pieces, h.step?_eq, hend]

/-- A slash at the end of a path says nothing. -/
theorem steps_slash {path : String} (h : path ≠ "") : steps (path ++ "/") = steps path := by
  have hslash : (path ++ "/").toList = path.toList ++ '/' :: [] := by simp
  have hend : step? [] = none := rfl
  unfold steps
  rw [hslash, Text.pieces_append_cons (by rfl)]
  cases hpieces : Text.pieces (· == '/') path.toList with
  | nil => exact absurd hpieces (Text.pieces_ne_nil _ _)
  | cons first rest =>
    -- an empty first piece is followed by others, since the path is not empty
    have hrest : first = [] → rest ≠ [] := by
      rintro rfl rfl
      exact h (String.toList_eq_nil_iff.mp (Text.eq_nil_of_pieces_eq hpieces))
    by_cases hfirst : first = []
    · simp [Text.pieces, hend, hfirst, hrest hfirst]
    · simp [Text.pieces, hend, hfirst]

/-- An entry of a directory is one step behind it. -/
theorem steps_join_of_isPlain (directory : String) (h : IsPlain name) :
    steps (join directory name) = steps directory ++ [.name name] := by
  have hrelative : isAbsolute name = false := by
    rw [isAbsolute, beq_eq_false_iff_ne]
    exact fun hhead => h.no_slash (List.mem_of_head? hhead)
  rw [join, if_neg (by simp [hrelative])]
  by_cases hempty : directory = ""
  · have hnowhere : steps "" = [] := rfl
    have hhere : name.toList ≠ ['.'] := fun heq => h.ne_here (String.toList_inj.mp heq)
    rw [if_pos (.inl hempty), hempty, String.empty_append, hnowhere, List.nil_append, steps,
      h.pieces_eq]
    simp [hhere, h.step?_eq]
  · by_cases hslash : directory.toList.getLast? = some '/'
    · -- the slash is there already
      obtain ⟨front, hfront⟩ := List.getLast?_eq_some_iff.mp hslash
      have hdirectory : directory = String.ofList front ++ "/" := by
        rw [← String.toList_inj, hfront]
        simp
      rw [if_pos (.inr hslash), hdirectory, steps_slash_append _ h]
    · rw [if_neg (not_or.mpr ⟨hempty, hslash⟩), steps_slash_append _ h, steps_slash hempty]

/-- A path ends in what stands behind its last slash. -/
theorem exists_steps_join_of_slash (directory head : String) (h : IsPlain name) :
    ∃ front, steps (join directory (head ++ "/" ++ name)) = front ++ [.name name] := by
  have hends : ∃ front, join directory (head ++ "/" ++ name) = front ++ "/" ++ name := by
    unfold join
    split
    · exact ⟨head, rfl⟩
    · split
      · exact ⟨directory ++ head, by simp only [String.append_assoc]⟩
      · exact ⟨directory ++ "/" ++ head, by simp only [String.append_assoc]⟩
  obtain ⟨front, hfront⟩ := hends
  exact ⟨steps (front ++ "/"), by rw [hfront, steps_slash_append _ h]⟩

end Path

namespace FileTree

/-! ## Locations -/

theorem follow_append (location : Location) (steps others : List PathStep) :
    follow location (steps ++ others) = follow (follow location steps) others := by
  induction steps generalizing location with
  | nil => rfl
  | cons step rest ih =>
    cases step with
    | root | here | up | name => exact ih _

theorem locate_of_isDirectory {tree : FileTree} {path : String}
    (h : tree.isDirectory path = true) : tree.locate path = .ok (view.fileAt tree path) := by
  cases hlocate : tree.locate path with
  | error fault =>
    rw [isDirectory, entryAt?, hlocate] at h
    cases h
  | ok location => rw [locate_eq_ok hlocate]

/-- A plain name leads to an entry of the directory. -/
theorem fileAt_join_of_isPlain (tree : FileTree) (directory : String) {name : String}
    (h : Path.IsPlain name) :
    view.fileAt tree (Path.join directory name) = view.fileAt tree directory ++ [name] := by
  simp only [view, Path.steps_join_of_isPlain directory h, follow_append, follow]

/-- A document stands in its directory under the name of its sheet exactly where this name has no
slash. -/
theorem fileAt_document_iff (tree : FileTree) (directory sheet : String) :
    view.fileAt tree (Path.join directory (sheet ++ ".json")) =
        view.fileAt tree directory ++ [sheet ++ ".json"] ↔ '/' ∉ sheet.toList := by
  constructor
  · intro h hslash
    cases hcut : Text.splitLast? '/' sheet.toList with
    | none => exact Text.splitLast?_eq_none_iff.mp hcut hslash
    | some cut =>
      obtain ⟨hsheet, htail⟩ := Text.splitLast?_eq_some_iff.mp (Prod.eta cut ▸ hcut)
      have hplain : Path.IsPlain (String.ofList cut.2 ++ ".json") :=
        Path.isPlain_append_json (by rwa [String.toList_ofList])
      have hname : sheet ++ ".json" =
          String.ofList cut.1 ++ "/" ++ (String.ofList cut.2 ++ ".json") := by
        rw [← String.toList_inj]
        simp [hsheet]
      obtain ⟨front, hfront⟩ :=
        Path.exists_steps_join_of_slash directory (String.ofList cut.1) hplain
      rw [← hname] at hfront
      simp only [view, hfront, follow_append, follow] at h
      -- the last names are the same, but only one has a slash
      have hlast : String.ofList cut.2 ++ ".json" = sheet ++ ".json" :=
        List.singleton_inj.mp (List.append_inj_right' h rfl)
      have hmem : '/' ∈ (sheet ++ ".json").toList := by
        rw [String.toList_append]
        exact List.mem_append_left _ hslash
      exact hplain.no_slash (hlast ▸ hmem)
  · exact fun h => fileAt_join_of_isPlain tree directory (Path.isPlain_append_json h)

/-! ## Directories stay -/

/-- Whatever was a directory still is one, and relative paths start from the same one. -/
structure Stays (tree other : FileTree) : Prop where
  workingDirectory_eq : other.workingDirectory = tree.workingDirectory
  directory : ∀ location, tree.lookup? location = some .directory →
    other.lookup? location = some .directory

theorem Stays.refl (tree : FileTree) : Stays tree tree :=
  ⟨rfl, fun _ h => h⟩

theorem Stays.trans {first second third : FileTree} (h : Stays first second)
    (hnext : Stays second third) : Stays first third :=
  ⟨hnext.workingDirectory_eq.trans h.workingDirectory_eq,
    fun location hlocation => hnext.directory location (h.directory location hlocation)⟩

/-- What is placed where no directory stands leaves the directories. -/
theorem stays_place {tree : FileTree} {location : Location} {entry : TreeEntry}
    (h : tree.lookup? location ≠ some .directory) : Stays tree (tree.place location entry) := by
  refine ⟨rfl, fun other hother => ?_⟩
  rw [lookup?_place]
  by_cases hroot : other = []
  · rw [if_pos hroot]
  · rw [if_neg hroot, if_neg (by rintro rfl; exact h hother)]
    exact hother

theorem stays_of_makeAll? {tree made : FileTree} {path : String}
    (h : tree.makeAll? path = some made) : Stays tree made := by
  refine related_of_makeDirectories Stays.refl (fun _ _ _ => Stays.trans) ?_ h
  intro tree made path hmade
  obtain ⟨location, hnone, rfl⟩ := makeDirectory_eq_ok hmade
  exact stays_place (by rw [hnone]; nofun)

/-- A walk through directories that stay arrives where it did. -/
theorem Stays.walk_eq_ok {tree other : FileTree} (h : Stays tree other) {location result : Location}
    {steps : List PathStep} (hwalk : tree.walk location steps = .ok result) :
    other.walk location steps = .ok result := by
  induction steps generalizing location with
  | nil => exact hwalk
  | cons step rest ih =>
    unfold walk at hwalk ⊢
    split at hwalk
    · cases hwalk
    · cases hwalk
    · rename_i hdirectory
      rw [h.directory _ hdirectory]
      cases step with
      | root | here | up => exact ih hwalk
      | name name =>
        dsimp only at hwalk ⊢
        split at hwalk
        · rename_i hname
          rw [if_pos hname]
          exact ih hwalk
        · cases hwalk

theorem Stays.locate_eq_ok {tree other : FileTree} (h : Stays tree other) {path : String}
    {location : Location} (hlocate : tree.locate path = .ok location) :
    other.locate path = .ok location := by
  unfold locate at hlocate ⊢
  split at hlocate
  · cases hlocate
  · rename_i hpath
    rw [if_neg hpath, h.workingDirectory_eq]
    exact h.walk_eq_ok hlocate

/-! ## Files that were written -/

/-- The path is that of a file or of nothing, in a directory that stands. -/
structure IsPlace (tree : FileTree) (path : String) : Prop where
  endsInDirectory_eq : endsInDirectory path = false
  locate_eq : tree.locate path = .ok (view.fileAt tree path)

theorem Stays.fileAt_eq {tree other : FileTree} (h : Stays tree other) :
    view.fileAt other = view.fileAt tree := by
  funext path
  simp only [view, h.workingDirectory_eq]

theorem Stays.isPlace {tree other : FileTree} (h : Stays tree other) {path : String}
    (hplace : IsPlace tree path) : IsPlace other path :=
  ⟨hplace.endsInDirectory_eq, by rw [h.fileAt_eq]; exact h.locate_eq_ok hplace.locate_eq⟩

/-- At a place, the bytes that the tree has there are read as a text. -/
theorem IsPlace.read?_eq {tree : FileTree} {path text : String} (h : IsPlace tree path)
    (hbytes : view.bytes? tree (view.fileAt tree path) = some text.toUTF8) :
    tree.read? path = some text := by
  have hentry : tree.lookup? (view.fileAt tree path) = some (.file text.toUTF8) := by
    dsimp only [view] at hbytes ⊢
    split at hbytes
    · rename_i bytes hlookup
      rw [hlookup, Option.some.inj hbytes]
    · cases hbytes
  have htext : String.fromUTF8? text.toUTF8 = some text := dif_pos text.isValidUTF8
  rw [read?, entryAt?, h.locate_eq]
  dsimp only
  rw [hentry]
  dsimp only
  rw [h.endsInDirectory_eq, htext]
  rfl

/-- A file is put at its place, and the directories stay. -/
theorem place_of_put? {tree result : FileTree} {path : String} {bytes : ByteArray}
    (h : tree.put? path bytes = some result) : Stays tree result ∧ IsPlace tree path := by
  unfold put? at h
  split at h
  · cases h
  · rename_i hend
    split at h
    · cases h
    · rename_i location hlocate
      obtain rfl := FileTree.locate_eq_ok hlocate
      split at h
      · cases h
      · rename_i hdirectory
        obtain rfl := Option.some.inj h
        exact ⟨stays_place hdirectory, by simpa using hend, hlocate⟩

theorem place_of_writeFile {tree next : FileTree} {path text : String}
    (h : (disk.writeFile path text).run tree = (true, next)) :
    Stays tree next ∧ IsPlace next path := by
  have hbecome : (become (tree.put? path text.toUTF8)).run tree = (true, next) := h
  cases hput : tree.put? path text.toUTF8 with
  | none =>
    rw [hput] at hbecome
    cases hbecome
  | some result =>
    rw [hput] at hbecome
    obtain rfl : result = next := congrArg Prod.snd hbecome
    obtain ⟨hstays, hplace⟩ := place_of_put? hput
    exact ⟨hstays, hstays.isPlace hplace⟩

theorem stays_of_makeDirectories (tree : FileTree) (path : String) :
    Stays tree ((disk.makeDirectories path).run tree).2 := by
  show Stays tree ((become (tree.makeAll? path)).run tree).2
  cases hmade : tree.makeAll? path with
  | none => exact Stays.refl tree
  | some made => exact stays_of_makeAll? hmade

/-- A file that is written stands at its place, and the directories stay. -/
theorem place_of_write {file : PlannedFile} {tree next : FileTree}
    (h : (file.write disk).run tree = (true, next)) : Stays tree next ∧ IsPlace next file.path := by
  cases hparent : Path.parent? file.path with
  | none =>
    unfold PlannedFile.write at h
    rw [hparent] at h
    exact place_of_writeFile h
  | some directory =>
    rw [PlannedFile.run_write_of_parent hparent] at h
    split at h
    · obtain ⟨hstays, hplace⟩ := place_of_writeFile h
      exact ⟨(stays_of_makeDirectories tree directory).trans hstays, hplace⟩
    · cases h

/-- After all of a plan was written, every file of it stands at its place. -/
theorem places_of_written {plan : List PlannedFile} {start last : FileTree}
    (h : PlannedFile.Written disk plan start last) :
    Stays start last ∧ ∀ file ∈ plan, IsPlace last file.path := by
  induction h with
  | nil state => exact ⟨Stays.refl state, nofun⟩
  | cons hfile _ ih =>
    obtain ⟨hstays, hplace⟩ := place_of_write hfile
    refine ⟨hstays.trans ih.1, ?_⟩
    rw [List.forall_mem_cons]
    exact ⟨ih.1.isPlace hplace, ih.2⟩

end FileTree

end GameSheets
