/-
  The files on a disk, and what its operations do to them.

  A view of a disk tells, of each state, the file that a path leads to and the bytes of each file.
  A disk keeps a view where making directories touches no file, and where writing a file changes
  that file alone if it succeeds and none if it fails; no operation changes where paths lead.

  A file tree keeps the view of its locations.  A path is followed step by step through directories,
  so that it leads, if it leads anywhere, to the location that its steps spell out from the working
  directory (`walk_eq_ok`), whatever else stands in the tree.
-/
import Mathlib
import GameSheets.Files.Tree

namespace GameSheets

/-! ## Views -/

/-- What is seen of the files on a disk: the file that a path leads to, and the bytes of a file. -/
structure FileView (σ κ : Type) where
  fileAt : σ → String → κ
  bytes? : σ → κ → Option ByteArray

/-- The disk does to the files what its operations say, whether they succeed or fail. -/
structure FileView.KeptBy {σ κ : Type} [DecidableEq κ] (view : FileView σ κ)
    (disk : Disk (StateM σ)) : Prop where
  fileAt_makeDirectories : ∀ path state,
    view.fileAt ((disk.makeDirectories path).run state).2 = view.fileAt state
  bytes?_makeDirectories : ∀ path state,
    view.bytes? ((disk.makeDirectories path).run state).2 = view.bytes? state
  fileAt_writeFile : ∀ path text state,
    view.fileAt ((disk.writeFile path text).run state).2 = view.fileAt state
  bytes?_writeFile : ∀ path text state,
    view.bytes? ((disk.writeFile path text).run state).2 =
      if ((disk.writeFile path text).run state).1 = true then
        Function.update (view.bytes? state) (view.fileAt state path) (some text.toUTF8)
      else view.bytes? state

/-! ## Trees -/

namespace FileTree

/-- The location that steps lead to when everything on the way is a directory. -/
def follow (location : Location) : List PathStep → Location
  | [] => location
  | .root :: rest => follow [] rest
  | .here :: rest => follow location rest
  | .up :: rest => follow location.dropLast rest
  | .name name :: rest => follow (location ++ [name]) rest

/-- The files of a tree: a path leads where its steps lead. -/
def view : FileView FileTree Location where
  fileAt tree path := follow tree.workingDirectory (Path.steps path)
  bytes? tree location :=
    match tree.lookup? location with
    | some (.file bytes) => some bytes
    | _ => none

/-- A walk that arrives has gone where its steps lead. -/
theorem walk_eq_ok {tree : FileTree} {location result : Location} {steps : List PathStep}
    (h : tree.walk location steps = .ok result) : result = follow location steps := by
  induction steps generalizing location with
  | nil => exact (Except.ok.inj h).symm
  | cons step rest ih =>
    unfold walk at h
    split at h
    · cases h
    · cases h
    · cases step with
      | root | here | up => exact ih h
      | name name =>
        dsimp only at h
        split at h
        · exact ih h
        · cases h

/-- A path that is located is at the location that it leads to. -/
theorem locate_eq_ok {tree : FileTree} {path : String} {location : Location}
    (h : tree.locate path = .ok location) : location = view.fileAt tree path := by
  unfold locate at h
  split at h
  · cases h
  · exact walk_eq_ok h

/-- An entry is found where it was placed, and the others where they were; the root stays. -/
theorem lookup?_place (tree : FileTree) (location other : Location) (entry : TreeEntry) :
    (tree.place location entry).lookup? other =
      if other = [] then some .directory
      else if other = location then some entry
      else tree.lookup? other := by
  unfold lookup? place
  by_cases hroot : other = []
  · rw [if_pos hroot, if_pos hroot]
  · rw [if_neg hroot, if_neg hroot]
    by_cases hother : other = location
    · rw [if_pos hother, hother, List.find?_cons_of_pos (by simp)]
      rfl
    · have hne : ¬ location = other := fun heq => hother heq.symm
      rw [if_neg hother, if_neg hroot, List.find?_cons_of_neg (by simpa using hne),
        List.find?_filter]
      congr 2
      funext entry
      by_cases hentry : entry.1 = other
      · simp [hentry, hother]
      · simp [hentry]

/-- Placing a file changes the bytes at its location alone. -/
theorem bytes?_place_file (tree : FileTree) {location : Location} (hlocation : location ≠ [])
    (bytes : ByteArray) :
    view.bytes? (tree.place location (.file bytes)) =
      Function.update (view.bytes? tree) location (some bytes) := by
  funext other
  simp only [view, lookup?_place]
  by_cases hother : other = location
  · rw [hother, Function.update_self, if_neg hlocation, if_pos rfl]
  · rw [Function.update_of_ne hother]
    by_cases hroot : other = []
    · rw [if_pos hroot, lookup?, if_pos hroot]
    · rw [if_neg hroot, if_neg hother]

/-- Placing a directory where nothing stands changes no bytes. -/
theorem bytes?_place_directory (tree : FileTree) {location : Location}
    (hnone : tree.lookup? location = none) :
    view.bytes? (tree.place location .directory) = view.bytes? tree := by
  funext other
  simp only [view, lookup?_place]
  by_cases hroot : other = []
  · rw [if_pos hroot, lookup?, if_pos hroot]
  · rw [if_neg hroot]
    by_cases hother : other = location
    · rw [if_pos hother, hother, hnone]
    · rw [if_neg hother]

/-- Making directories relates two trees as making one directory does. -/
theorem related_of_makeDirectories {R : FileTree → FileTree → Prop} (hrefl : ∀ tree, R tree tree)
    (htrans : ∀ first second third, R first second → R second third → R first third)
    (hmake : ∀ tree made path, tree.makeDirectory path = .ok made → R tree made)
    {tree made : FileTree} {steps : Nat} {path : String}
    (h : tree.makeDirectories steps path = some made) : R tree made := by
  induction steps generalizing path made with
  | zero => cases h
  | succ steps ih =>
    rw [makeDirectories] at h
    split at h
    · obtain rfl := Option.some.inj h
      exact hrefl _
    · split at h
      · rename_i directory hmade
        obtain rfl := Option.some.inj h
        exact hmake _ _ _ hmade
      · split at h
        · obtain rfl := Option.some.inj h
          exact hrefl _
        · cases h
      · -- the directories above are made first
        obtain ⟨parent, -, h⟩ := Option.bind_eq_some_iff.mp h
        obtain ⟨above, habove, h⟩ := Option.bind_eq_some_iff.mp h
        split at h
        · rename_i directory hmade
          obtain rfl := Option.some.inj h
          exact htrans _ _ _ (ih habove) (hmake _ _ _ hmade)
        · split at h
          · obtain rfl := Option.some.inj h
            exact ih habove
          · cases h

/-- A directory is made where nothing stands. -/
theorem makeDirectory_eq_ok {tree made : FileTree} {path : String}
    (h : tree.makeDirectory path = .ok made) :
    ∃ location, tree.lookup? location = none ∧ made = tree.place location .directory := by
  unfold makeDirectory at h
  cases hlocate : tree.locate path with
  | error fault =>
    rw [hlocate] at h
    cases h
  | ok location =>
    rw [hlocate] at h
    cases hlookup : tree.lookup? location with
    | some entry =>
      simp only [bind, Except.bind, hlookup] at h
      cases h
    | none =>
      simp only [bind, Except.bind, hlookup] at h
      exact ⟨location, hlookup, (Except.ok.inj h).symm⟩

/-- The trees have the same files, and paths lead to the same ones. -/
structure SameFiles (tree other : FileTree) : Prop where
  workingDirectory_eq : other.workingDirectory = tree.workingDirectory
  bytes?_eq : view.bytes? other = view.bytes? tree

/-- Making directories touches no file. -/
theorem makeDirectories_sameFiles {tree made : FileTree} {steps : Nat} {path : String}
    (h : tree.makeDirectories steps path = some made) : SameFiles tree made := by
  refine related_of_makeDirectories (fun _ => ⟨rfl, rfl⟩) ?_ ?_ h
  · intro first second third hfirst hsecond
    exact ⟨hsecond.workingDirectory_eq.trans hfirst.workingDirectory_eq,
      hsecond.bytes?_eq.trans hfirst.bytes?_eq⟩
  · intro tree made path hmade
    obtain ⟨location, hnone, rfl⟩ := makeDirectory_eq_ok hmade
    exact ⟨rfl, bytes?_place_directory tree hnone⟩

/-- A file that is put into the tree is the one that its path leads to. -/
theorem put?_eq_some {tree result : FileTree} {path : String} {bytes : ByteArray}
    (h : tree.put? path bytes = some result) :
    result.workingDirectory = tree.workingDirectory ∧
      view.bytes? result =
        Function.update (view.bytes? tree) (view.fileAt tree path) (some bytes) := by
  unfold put? at h
  split at h
  · cases h
  · split at h
    · cases h
    · rename_i location hlocate
      obtain rfl := locate_eq_ok hlocate
      split at h
      · cases h
      · rename_i hdirectory
        obtain rfl := Option.some.inj h
        -- a directory stands at the root, so that the file does not
        have hlocation : view.fileAt tree path ≠ [] := by
          intro hroot
          exact hdirectory (by rw [lookup?, if_pos hroot])
        exact ⟨rfl, bytes?_place_file tree hlocation bytes⟩

/-- A tree keeps its files as a disk does. -/
theorem view_keptBy_disk : view.KeptBy disk where
  fileAt_makeDirectories path tree := by
    show view.fileAt ((become (tree.makeAll? path)).run tree).2 = view.fileAt tree
    cases hmade : tree.makeAll? path with
    | none => rfl
    | some made =>
      show (fun other => follow made.workingDirectory (Path.steps other)) = _
      rw [(makeDirectories_sameFiles hmade).workingDirectory_eq]
      rfl
  bytes?_makeDirectories path tree := by
    show view.bytes? ((become (tree.makeAll? path)).run tree).2 = view.bytes? tree
    cases hmade : tree.makeAll? path with
    | none => rfl
    | some made => exact (makeDirectories_sameFiles hmade).bytes?_eq
  fileAt_writeFile path text tree := by
    show view.fileAt ((become (tree.put? path text.toUTF8)).run tree).2 = view.fileAt tree
    cases hput : tree.put? path text.toUTF8 with
    | none => rfl
    | some result =>
      show (fun other => follow result.workingDirectory (Path.steps other)) = _
      rw [(put?_eq_some hput).1]
      rfl
  bytes?_writeFile path text tree := by
    show view.bytes? ((become (tree.put? path text.toUTF8)).run tree).2 =
      if ((become (tree.put? path text.toUTF8)).run tree).1 = true then _ else _
    cases hput : tree.put? path text.toUTF8 with
    | none => rfl
    | some result => exact (put?_eq_some hput).2

end FileTree

end GameSheets
