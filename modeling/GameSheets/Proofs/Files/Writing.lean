/-
  Writing is a prefix of its plan.

  Each file of the plan takes two operations of the disk: the directories above it are made, and
  then the file is written.  Either may fail, at any file, and ends the run there.

  1. One file: if both operations succeed it has its text and no other file has changed, and if one
     fails no file has changed (`bytes?_write`).
  2. All files: the run has written the first files of the plan, as many as it has reported, and has
     stopped behind them, at the end of the plan or at a file that the disk refused
     (`writeAll_stopsAfter`, by induction on the plan).

  Files are told apart by a view of the disk, so that two paths that lead to one file, or a platform
  that is listed twice, make a later file of the plan replace an earlier one.
-/
import GameSheets.Files.Write
import GameSheets.Proofs.Files.Views
import GameSheets.Proofs.Outcome

namespace GameSheets

namespace PlannedFile

variable {σ κ : Type} [DecidableEq κ] {view : FileView σ κ} {disk : Disk (StateM σ)}

/-! ## One file -/

/-- The directories above a file are made first, and the file is written if they are there. -/
theorem run_write_of_parent {file : PlannedFile} {directory : String}
    (h : Path.parent? file.path = some directory) (state : σ) :
    (file.write disk).run state =
      if ((disk.makeDirectories directory).run state).1 = true then
        (disk.writeFile file.path file.text).run ((disk.makeDirectories directory).run state).2
      else (false, ((disk.makeDirectories directory).run state).2) := by
  unfold write
  rw [h]
  show (disk.makeDirectories directory >>= _).run state = _
  rw [StateT.run_bind]
  cases (disk.makeDirectories directory).run state with
  | mk made next =>
    cases made with
    | true => rfl
    | false => rfl

theorem fileAt_write (hview : view.KeptBy disk) (file : PlannedFile) (state : σ) :
    view.fileAt ((file.write disk).run state).2 = view.fileAt state := by
  cases hparent : Path.parent? file.path with
  | none =>
    unfold write
    rw [hparent]
    exact hview.fileAt_writeFile _ _ _
  | some directory =>
    rw [run_write_of_parent hparent]
    split
    · rw [hview.fileAt_writeFile, hview.fileAt_makeDirectories]
    · exact hview.fileAt_makeDirectories _ _

/-- A file that is written has its text, and no other file is changed; where it is not written, no
file is. -/
theorem bytes?_write (hview : view.KeptBy disk) (file : PlannedFile) (state : σ) :
    view.bytes? ((file.write disk).run state).2 =
      if ((file.write disk).run state).1 = true then
        Function.update (view.bytes? state) (view.fileAt state file.path)
          (some file.text.toUTF8)
      else view.bytes? state := by
  cases hparent : Path.parent? file.path with
  | none =>
    unfold write
    rw [hparent]
    exact hview.bytes?_writeFile _ _ _
  | some directory =>
    rw [run_write_of_parent hparent]
    by_cases hmade : ((disk.makeDirectories directory).run state).1 = true
    · rw [if_pos hmade, hview.bytes?_writeFile, hview.bytes?_makeDirectories,
        hview.fileAt_makeDirectories]
    · rw [if_neg hmade, if_neg nofun]
      exact hview.bytes?_makeDirectories _ _

/-! ## All files -/

/-- The files after those of a plan were written in order, each over what was there before. -/
def applied (fileAt : String → κ) (files : κ → Option ByteArray) (plan : List PlannedFile) :
    κ → Option ByteArray :=
  plan.foldl
    (fun files file => Function.update files (fileAt file.path) (some file.text.toUTF8)) files

/-- The disk wrote all of the files in order, from the one state to the other. -/
inductive Written (disk : Disk (StateM σ)) : List PlannedFile → σ → σ → Prop
  | nil (state : σ) : Written disk [] state state
  | cons {file : PlannedFile} {rest : List PlannedFile} {start next last : σ}
      (hfile : (file.write disk).run start = (true, next)) (hrest : Written disk rest next last) :
      Written disk (file :: rest) start last

/-- The run stopped behind the first `count` files of the plan.  These were written, in order, and
no other file was changed; each of them was reported, with its path and the number of its bytes.
At the end of the plan the run succeeds with all paths; elsewhere it fails with the path of the next
file, which the disk refused. -/
structure StopsAfter (view : FileView σ κ) (disk : Disk (StateM σ)) (plan : List PlannedFile)
    (start : σ) (reported : Reported WriteError (List String)) (last : σ) (count : Nat) :
    Prop where
  count_le : count ≤ plan.length
  bytes?_eq :
    view.bytes? last = applied (view.fileAt start) (view.bytes? start) (plan.take count)
  events_eq : reported.events =
    (plan.take count).map fun file => .wrote file.path file.text.toUTF8.size
  outcome_ok_iff : reported.outcome = .ok (plan.map (·.path)) ↔ count = plan.length
  outcome_of_next : ∀ file, plan[count]? = some file → reported.outcome = .error ⟨file.path⟩
  reached : ∃ state, Written disk (plan.take count) start state ∧
    (count = plan.length → last = state) ∧
    ∀ file, plan[count]? = some file → (file.write disk).run state = (false, last)

/-- A run over an empty plan is at its end. -/
theorem stopsAfter_nil (start : σ) :
    StopsAfter view disk [] start (Reported.done []) start 0 where
  count_le := Nat.le_refl 0
  bytes?_eq := rfl
  events_eq := rfl
  outcome_ok_iff := ⟨fun _ => rfl, fun _ => rfl⟩
  outcome_of_next := by
    intro file hfile
    cases hfile
  reached := by
    refine ⟨start, .nil start, fun _ => rfl, ?_⟩
    intro file hfile
    cases hfile

/-- A run whose first file is refused stops at it. -/
theorem stopsAfter_of_refused (hview : view.KeptBy disk) {file : PlannedFile}
    {rest : List PlannedFile} {start next : σ}
    (hfile : (file.write disk).run start = (false, next)) :
    StopsAfter view disk (file :: rest) start (Reported.lift (.error ⟨file.path⟩)) next 0 where
  count_le := Nat.zero_le _
  bytes?_eq := by
    have hbytes := bytes?_write hview file start
    rw [hfile] at hbytes
    exact hbytes
  events_eq := rfl
  outcome_ok_iff := ⟨nofun, nofun⟩
  outcome_of_next := by
    rintro other ⟨⟩
    rfl
  reached := by
    refine ⟨start, .nil start, nofun, ?_⟩
    rintro other ⟨⟩
    exact hfile

/-- A run whose first file is written goes on with the rest of the plan. -/
theorem StopsAfter.cons (hview : view.KeptBy disk) {file : PlannedFile}
    {rest : List PlannedFile} {start next last : σ} {others : Reported WriteError (List String)}
    {count : Nat} (hfile : (file.write disk).run start = (true, next))
    (h : StopsAfter view disk rest next others last count) :
    StopsAfter view disk (file :: rest) start
      ⟨file.event :: others.events, others.outcome.map (file.path :: ·)⟩ last (count + 1) where
  count_le := Nat.succ_le_succ h.count_le
  bytes?_eq := by
    have hbytes := bytes?_write hview file start
    have hpaths := fileAt_write hview file start
    rw [hfile] at hbytes hpaths
    show _ = applied _ _ (file :: rest.take count)
    rw [h.bytes?_eq, hpaths, hbytes]
    rfl
  events_eq := by
    show file.event :: others.events = _
    rw [h.events_eq]
    rfl
  outcome_ok_iff := by
    rw [Outcome.map_eq_ok, List.length_cons, Nat.add_right_cancel_iff, ← h.outcome_ok_iff]
    constructor
    · rintro ⟨paths, hpaths, heq⟩
      rw [hpaths, (List.cons.inj heq).2]
    · intro hpaths
      exact ⟨_, hpaths, rfl⟩
  outcome_of_next := by
    intro other hother
    rw [Outcome.map_eq_error]
    exact h.outcome_of_next other hother
  reached := by
    obtain ⟨state, hwritten, hend, hrefused⟩ := h.reached
    exact ⟨state, .cons hfile hwritten, fun heq => hend (Nat.succ.inj heq), hrefused⟩

theorem run_writeAll_cons (file : PlannedFile) (rest : List PlannedFile) (start : σ) :
    (writeAll disk (file :: rest)).run start =
      match (file.write disk).run start with
      | (true, next) =>
        let others := (writeAll disk rest).run next
        (⟨file.event :: others.1.events, others.1.outcome.map (file.path :: ·)⟩, others.2)
      | (false, next) => (Reported.lift (.error ⟨file.path⟩), next) := by
  rw [writeAll, StateT.run_bind]
  cases (file.write disk).run start with
  | mk written next =>
    cases written with
    | true => rfl
    | false => rfl

/-- Every run over a plan stops behind some first part of it. -/
theorem writeAll_stopsAfter (hview : view.KeptBy disk) (plan : List PlannedFile) (start : σ) :
    ∃ count, StopsAfter view disk plan start ((writeAll disk plan).run start).1
      ((writeAll disk plan).run start).2 count := by
  induction plan generalizing start with
  | nil => exact ⟨0, stopsAfter_nil start⟩
  | cons file rest ih =>
    rw [run_writeAll_cons]
    cases hfile : (file.write disk).run start with
    | mk written next =>
      cases written with
      | false => exact ⟨0, stopsAfter_of_refused hview hfile⟩
      | true =>
        obtain ⟨count, hcount⟩ := ih next
        exact ⟨count + 1, hcount.cons hview hfile⟩

/-- As many files are reported as were written. -/
theorem StopsAfter.length_events {plan : List PlannedFile} {start last : σ}
    {reported : Reported WriteError (List String)} {count : Nat}
    (h : StopsAfter view disk plan start reported last count) : reported.events.length = count := by
  rw [h.events_eq, List.length_map, List.length_take, Nat.min_eq_left h.count_le]

end PlannedFile

namespace Artifacts

/-- Writing artifacts stops behind some first part of their plan. -/
theorem write_stopsAfter {σ κ : Type} [DecidableEq κ] {view : FileView σ κ}
    {disk : Disk (StateM σ)} (hview : view.KeptBy disk) (config : Config)
    (artifacts : List Artifacts) (start : σ) :
    ∃ count, PlannedFile.StopsAfter view disk (planAll config artifacts) start
      ((PlannedFile.writeAll disk (planAll config artifacts)).run start).1
      ((PlannedFile.writeAll disk (planAll config artifacts)).run start).2 count :=
  PlannedFile.writeAll_stopsAfter hview (planAll config artifacts) start

/-! ### A directory in the way -/

/-- Both headers of the server have one path, and the documents lie beside it. -/
def narrowConfig : Config :=
  { Config.standard with
    serverHeaderDir := "out"
    serverJsonDir := "out"
    serverEnumFile := "game.h"
    serverDataFile := "game.h" }

/-- The server twice, with a document each. -/
def serverTwice : List Artifacts := [
  ⟨.server, "enum", "data", [("Item", ⟨0, 0, [], []⟩)]⟩,
  ⟨.server, "enum again", "data again", [("Grade", ⟨0, 0, [], []⟩), ("Skill", ⟨0, 0, [], []⟩)]⟩]

/-- A directory stands where the second document is to be written. -/
def blockedTree : FileTree where
  entries := [
    (["out"], .directory),
    (["out", "Item.json"], .file "stale".toUTF8),
    (["out", "Grade.json"], .directory)]
  workingDirectory := []

/-- Five files are written, the header in its place four times and the stale document once; the run
ends at the directory. -/
theorem serverTwice_stops :
    FileTree.view.KeptBy FileTree.disk ∧
      PlannedFile.StopsAfter FileTree.view FileTree.disk (planAll narrowConfig serverTwice)
        blockedTree
        ((PlannedFile.writeAll FileTree.disk (planAll narrowConfig serverTwice)).run blockedTree).1
        ((PlannedFile.writeAll FileTree.disk (planAll narrowConfig serverTwice)).run blockedTree).2
        5 ∧
      ((PlannedFile.writeAll FileTree.disk (planAll narrowConfig serverTwice)).run
        blockedTree).1.outcome = .error ⟨"out/Grade.json"⟩ := by
  obtain ⟨count, hstops⟩ :=
    write_stopsAfter FileTree.view_keptBy_disk narrowConfig serverTwice blockedTree
  have hevents : ((PlannedFile.writeAll FileTree.disk (planAll narrowConfig serverTwice)).run
      blockedTree).1.events.length = 5 := by decide +kernel
  obtain rfl : count = 5 := hstops.length_events.symm.trans hevents
  have hnext : (planAll narrowConfig serverTwice)[5]?.map (·.path) = some "out/Grade.json" := by
    decide +kernel
  obtain ⟨file, hfile, hpath⟩ := Option.map_eq_some_iff.mp hnext
  have houtcome := hstops.outcome_of_next file hfile
  rw [hpath] at houtcome
  exact ⟨FileTree.view_keptBy_disk, hstops, houtcome⟩

end Artifacts

end GameSheets
