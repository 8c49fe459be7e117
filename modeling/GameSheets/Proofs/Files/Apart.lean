/-
  Artifacts that do not overwrite each other.

  Headers and documents of all platforms are written into the directories of a configuration.  A
  document is named for its sheet, and the name of a sheet is free text but for underscores; a name
  with a slash is a path of its own, which may lead out of the directory or to the place of another
  file.

  1. Of the files at one location, the one that is written last is read there (`read?_of_writeAll`).
  2. Directories at different locations and plain names give different locations: for the files of
     one platform (`nodup_plan`) and for those of several (`nodup_planAll`).
  3. In a compiled workbook the documents of a platform have different names, so that with no slash
     in them every path holds its own text.
-/
import GameSheets.Proofs.Document.Lookups
import GameSheets.Proofs.Files.Locations

namespace GameSheets

/-! ## Files at one location -/

namespace PlannedFile

variable {κ : Type} {fileAt : String → κ} {plan : List PlannedFile} {location : κ}

/-- The file is the last one of the plan that is written at the location. -/
def IsLastAt (fileAt : String → κ) (plan : List PlannedFile) (location : κ) (file : PlannedFile) :
    Prop :=
  ∃ before after, plan = before ++ file :: after ∧ fileAt file.path = location ∧
    ∀ other ∈ after, fileAt other.path ≠ location

/-- A location that no file is written at stays as it is. -/
theorem applied_of_forall_ne [DecidableEq κ] {files : κ → Option ByteArray}
    (h : ∀ file ∈ plan, fileAt file.path ≠ location) :
    applied fileAt files plan location = files location := by
  induction plan generalizing files with
  | nil => rfl
  | cons file rest ih =>
    rw [List.forall_mem_cons] at h
    show applied fileAt (Function.update files (fileAt file.path) _) rest location = files location
    rw [ih h.2, Function.update_of_ne h.1.symm]

/-- At a location there is what the last file brought there. -/
theorem applied_of_isLastAt [DecidableEq κ] {files : κ → Option ByteArray} {file : PlannedFile}
    (h : IsLastAt fileAt plan location file) :
    applied fileAt files plan location = some file.text.toUTF8 := by
  obtain ⟨before, after, rfl, rfl, hafter⟩ := h
  rw [applied, List.foldl_append, List.foldl_cons]
  exact (applied_of_forall_ne hafter).trans (Function.update_self ..)

/-- Where a file is written, one is the last. -/
theorem exists_isLastAt (h : ∃ file ∈ plan, fileAt file.path = location) :
    ∃ last, IsLastAt fileAt plan location last := by
  induction plan with
  | nil =>
    obtain ⟨_, hmem, -⟩ := h
    cases hmem
  | cons first rest ih =>
    by_cases hrest : ∃ file ∈ rest, fileAt file.path = location
    · obtain ⟨last, before, after, rfl, hlast⟩ := ih hrest
      exact ⟨last, first :: before, after, rfl, hlast⟩
    · obtain ⟨file, hmem, hat⟩ := h
      rcases List.mem_cons.mp hmem with rfl | hmem
      · exact ⟨file, [], rest, rfl, hat, fun other hother heq => hrest ⟨other, hother, heq⟩⟩
      · exact absurd ⟨file, hmem, hat⟩ hrest

/-- Where all files are written at different locations, each is the last at its own. -/
theorem isLastAt_of_nodup (h : (plan.map fun file => fileAt file.path).Nodup) {file : PlannedFile}
    (hfile : file ∈ plan) : IsLastAt fileAt plan (fileAt file.path) file := by
  obtain ⟨before, after, rfl⟩ := List.append_of_mem hfile
  refine ⟨before, after, rfl, rfl, fun other hother hsame => ?_⟩
  rw [List.map_append, List.map_cons] at h
  have hafter := (List.nodup_cons.mp (List.nodup_append.mp h).2.1).1
  exact hafter (List.mem_map.mpr ⟨other, hother, hsame⟩)

end PlannedFile

namespace FileTree

/-- After a run that wrote all of a plan, each path leads where it led before, and is read as the
text of the last file that was written there. -/
theorem read?_of_writeAll {plan : List PlannedFile} {start last : FileTree}
    {reported : Reported WriteError (List String)} {paths : List String}
    (hrun : (PlannedFile.writeAll disk plan).run start = (reported, last))
    (hok : reported.outcome = .ok paths) :
    paths = plan.map (·.path) ∧ ∀ file ∈ plan,
      last.locate file.path = .ok (view.fileAt start file.path) ∧
      ∀ winner, PlannedFile.IsLastAt (view.fileAt start) plan (view.fileAt start file.path) winner →
        last.read? file.path = some winner.text := by
  obtain ⟨count, hstops⟩ := PlannedFile.writeAll_stopsAfter view_keptBy_disk plan start
  rw [hrun] at hstops
  -- nothing was refused
  have hcount : count = plan.length := by
    cases hnext : plan[count]? with
    | none => exact le_antisymm hstops.count_le (List.getElem?_eq_none_iff.mp hnext)
    | some file =>
      have hrefused := hstops.outcome_of_next file hnext
      rw [hok] at hrefused
      cases hrefused
  have hall : plan.take count = plan := List.take_of_length_le hcount.ge
  obtain ⟨state, hwritten, hend, -⟩ := hstops.reached
  obtain rfl := hend hcount
  rw [hall] at hwritten
  obtain ⟨hstays, hplaces⟩ := places_of_written hwritten
  have hbytes := hstops.bytes?_eq
  rw [hall] at hbytes
  refine ⟨Except.ok.inj (hok.symm.trans (hstops.outcome_ok_iff.mpr hcount)), fun file hfile => ?_⟩
  have hplace := hplaces file hfile
  refine ⟨by rw [hplace.locate_eq, hstays.fileAt_eq], fun winner hwinner => hplace.read?_eq ?_⟩
  rw [hbytes, hstays.fileAt_eq]
  exact PlannedFile.applied_of_isLastAt hwinner

end FileTree

/-! ## Directories of a configuration -/

/-- The output directories stand in the tree at four locations, and the two headers of a platform
have names of entries, which differ. -/
structure Config.SetsApart (config : Config) (tree : FileTree) : Prop where
  headerDir_stands : ∀ platform, tree.isDirectory (config.headerDir platform) = true
  jsonDir_stands : ∀ platform, tree.isDirectory (config.jsonDir platform) = true
  headerDir_inj : ∀ platform other, FileTree.view.fileAt tree (config.headerDir platform) =
    FileTree.view.fileAt tree (config.headerDir other) → platform = other
  jsonDir_inj : ∀ platform other, FileTree.view.fileAt tree (config.jsonDir platform) =
    FileTree.view.fileAt tree (config.jsonDir other) → platform = other
  headerDir_ne_jsonDir : ∀ platform other, FileTree.view.fileAt tree (config.headerDir platform) ≠
    FileTree.view.fileAt tree (config.jsonDir other)
  enumFile_isPlain : ∀ platform, Path.IsPlain (config.enumFile platform)
  dataFile_isPlain : ∀ platform, Path.IsPlain (config.dataFile platform)
  enumFile_ne_dataFile : ∀ platform, config.enumFile platform ≠ config.dataFile platform

namespace Artifacts

open FileTree (view)

variable {config : Config} {tree : FileTree} {made : Artifacts} {artifacts : List Artifacts}

/-- Where the files of a platform are written, when no name of a document has a slash. -/
theorem locations_plan (hconfig : config.SetsApart tree)
    (hplain : ∀ named ∈ made.documents, '/' ∉ named.1.toList) :
    (made.plan config).map (fun file => view.fileAt tree file.path) =
      [view.fileAt tree (config.headerDir made.platform) ++ [config.enumFile made.platform],
        view.fileAt tree (config.headerDir made.platform) ++ [config.dataFile made.platform]]
      ++ (made.documents.map (·.1)).map fun sheet =>
        view.fileAt tree (config.jsonDir made.platform) ++ [sheet ++ ".json"] := by
  have hdocuments : made.documents.map (fun named =>
        view.fileAt tree (Path.join (config.jsonDir made.platform) (named.1 ++ ".json"))) =
      made.documents.map (fun named =>
        view.fileAt tree (config.jsonDir made.platform) ++ [named.1 ++ ".json"]) := by
    refine List.map_congr_left fun named hnamed => ?_
    exact (FileTree.fileAt_document_iff _ _ _).mpr (hplain named hnamed)
  rw [plan, List.map_append, List.map_map, List.map_map]
  refine congrArg₂ (· ++ ·) ?_ hdocuments
  simp only [List.map_cons, List.map_nil,
    FileTree.fileAt_join_of_isPlain tree _ (hconfig.enumFile_isPlain _),
    FileTree.fileAt_join_of_isPlain tree _ (hconfig.dataFile_isPlain _)]

/-- The files of a platform are written at different locations. -/
theorem nodup_plan (hconfig : config.SetsApart tree)
    (hplain : ∀ named ∈ made.documents, '/' ∉ named.1.toList)
    (hnames : (made.documents.map (·.1)).Nodup) :
    ((made.plan config).map fun file => view.fileAt tree file.path).Nodup := by
  have happart := hconfig.headerDir_ne_jsonDir made.platform made.platform
  have hheaders := hconfig.enumFile_ne_dataFile made.platform
  rw [locations_plan hconfig hplain, List.nodup_append]
  refine ⟨by simpa using hheaders, ?_, ?_⟩
  · refine hnames.map fun sheet other heq => ?_
    exact String.append_left_inj _ |>.mp (List.singleton_inj.mp (List.append_cancel_left heq))
  · rintro location hheader _ hdocument rfl
    obtain ⟨sheet, -, rfl⟩ := List.mem_map.mp hdocument
    have hdirectory : view.fileAt tree (config.jsonDir made.platform) =
        view.fileAt tree (config.headerDir made.platform) := by
      simp only [List.mem_cons, List.not_mem_nil, or_false] at hheader
      rcases hheader with heq | heq
      · exact List.append_inj_left' heq rfl
      · exact List.append_inj_left' heq rfl
    exact happart hdirectory.symm

/-- A file of a platform is written into one of its two directories. -/
theorem dropLast_of_mem_plan (hconfig : config.SetsApart tree)
    (hplain : ∀ named ∈ made.documents, '/' ∉ named.1.toList) {file : PlannedFile}
    (hfile : file ∈ made.plan config) :
    (view.fileAt tree file.path).dropLast = view.fileAt tree (config.headerDir made.platform) ∨
      (view.fileAt tree file.path).dropLast = view.fileAt tree (config.jsonDir made.platform) := by
  have hlocation := List.mem_map_of_mem (f := fun file => view.fileAt tree file.path) hfile
  rw [locations_plan hconfig hplain, List.mem_append] at hlocation
  rcases hlocation with hheader | hdocument
  · simp only [List.mem_cons, List.not_mem_nil, or_false] at hheader
    rcases hheader with heq | heq
    · exact .inl (by rw [heq, List.dropLast_concat])
    · exact .inl (by rw [heq, List.dropLast_concat])
  · obtain ⟨sheet, -, heq⟩ := List.mem_map.mp hdocument
    exact .inr (by rw [← heq, List.dropLast_concat])

/-- A document is a file of the plan. -/
theorem mem_planAll_of_document {named : String × TableDocument} (hmade : made ∈ artifacts)
    (hnamed : named ∈ made.documents) :
    (⟨Path.join (config.jsonDir made.platform) (named.1 ++ ".json"), named.2.text⟩ : PlannedFile) ∈
      planAll config artifacts :=
  List.mem_flatMap.mpr ⟨made, hmade, List.mem_append_right _ (List.mem_map_of_mem hnamed)⟩

/-- The files of different platforms are written at different locations. -/
theorem nodup_planAll (hconfig : config.SetsApart tree)
    (hplatforms : (artifacts.map (·.platform)).Nodup)
    (hplain : ∀ made ∈ artifacts, ∀ named ∈ made.documents, '/' ∉ named.1.toList)
    (hnames : ∀ made ∈ artifacts, (made.documents.map (·.1)).Nodup) :
    ((planAll config artifacts).map fun file => view.fileAt tree file.path).Nodup := by
  rw [planAll, List.map_flatMap, List.nodup_flatMap]
  refine ⟨fun made hmade => nodup_plan hconfig (hplain made hmade) (hnames made hmade), ?_⟩
  refine (List.pairwise_map.mp hplatforms).imp_of_mem fun {made other} hmade hother hne => ?_
  intro location hlocation hotherLocation
  obtain ⟨file, hfile, rfl⟩ := List.mem_map.mp hlocation
  obtain ⟨otherFile, hotherFile, hsame⟩ := List.mem_map.mp hotherLocation
  -- the directories of the one platform are not those of the other
  have hdirectory := dropLast_of_mem_plan hconfig (hplain made hmade) hfile
  have hotherDirectory := dropLast_of_mem_plan hconfig (hplain other hother) hotherFile
  rw [hsame] at hotherDirectory
  rcases hdirectory with heq | heq
  · rcases hotherDirectory with hotherEq | hotherEq
    · exact hne (hconfig.headerDir_inj _ _ (heq.symm.trans hotherEq))
    · exact hconfig.headerDir_ne_jsonDir _ _ (heq.symm.trans hotherEq)
  · rcases hotherDirectory with hotherEq | hotherEq
    · exact hconfig.headerDir_ne_jsonDir _ _ (hotherEq.symm.trans heq)
    · exact hne (hconfig.jsonDir_inj _ _ (heq.symm.trans hotherEq))

end Artifacts

/-! ## Compiled workbooks -/

namespace Workbook

open FileTree (view)

/-- Artifacts are those of the platforms asked for, in order, and the documents of each have
different names. -/
theorem names_of_compile {workbook : Workbook} {config : Config} {platforms : List Platform}
    {artifacts : List Artifacts}
    (hcompile : (workbook.compile config platforms).outcome = .ok artifacts) :
    artifacts.map (·.platform) = platforms ∧
      ∀ made ∈ artifacts, (made.documents.map (·.1)).Nodup := by
  obtain ⟨merged, hmerge, hmade⟩ := compile_eq_ok.mp hcompile
  constructor
  · have hplatforms : platforms.map id = artifacts.map (·.platform) :=
      Outcome.map_eq_map hmade fun _ _ hartifacts => (artifactsFor_eq_ok.mp hartifacts).1.symm
    rw [← hplatforms, List.map_id]
  · intro made hmem
    obtain ⟨_, -, hartifacts⟩ := Outcome.exists_of_mem_right hmade hmem
    obtain ⟨-, tables, _, _, hmakes⟩ := artifactsFor_eq_ok.mp hartifacts
    rw [names_of_documents hmakes.documents_eq, names_of_refine hmakes.refine_eq]
    exact (shaped_of_merge hmerge).1.sublist (List.filter_sublist.map _)

/-- Where a compiled workbook is written, for different platforms and into directories that are set
apart, the paths are those of the plan, and each leads to the text that was last written to its
location.  A document stands in the directory of its platform under the name of its sheet exactly
where this name has no slash; where no name has one, all locations differ, and every path leads to
its own text. -/
theorem artifacts_apart {workbook : Workbook} {config : Config} {platforms : List Platform}
    {artifacts : List Artifacts} {tree last : FileTree}
    {reported : Reported WriteError (List String)} {paths : List String}
    (hconfig : config.SetsApart tree) (hplatforms : platforms.Nodup)
    (hcompile : (workbook.compile config platforms).outcome = .ok artifacts)
    (hrun : (PlannedFile.writeAll FileTree.disk (Artifacts.planAll config artifacts)).run tree =
      (reported, last))
    (hwrite : reported.outcome = .ok paths) :
    paths = (Artifacts.planAll config artifacts).map (·.path) ∧
      (∀ file ∈ Artifacts.planAll config artifacts, ∃ winner,
        PlannedFile.IsLastAt (view.fileAt tree) (Artifacts.planAll config artifacts)
            (view.fileAt tree file.path) winner ∧
          last.read? file.path = some winner.text) ∧
      (∀ made ∈ artifacts, ∀ named ∈ made.documents,
        ∃ directory, tree.locate (config.jsonDir made.platform) = .ok directory ∧
          (last.locate (Path.join (config.jsonDir made.platform) (named.1 ++ ".json")) =
            .ok (directory ++ [named.1 ++ ".json"]) ↔ '/' ∉ named.1.toList)) ∧
      ((∀ made ∈ artifacts, ∀ named ∈ made.documents, '/' ∉ named.1.toList) →
        ((Artifacts.planAll config artifacts).map fun file => view.fileAt tree file.path).Nodup ∧
          ∀ file ∈ Artifacts.planAll config artifacts, last.read? file.path = some file.text) := by
  obtain ⟨hartifacts, hnames⟩ := names_of_compile hcompile
  obtain ⟨hpaths, hread⟩ := FileTree.read?_of_writeAll hrun hwrite
  refine ⟨hpaths, ?_, ?_, ?_⟩
  · intro file hfile
    obtain ⟨winner, hwinner⟩ := PlannedFile.exists_isLastAt ⟨file, hfile, rfl⟩
    exact ⟨winner, hwinner, (hread file hfile).2 winner hwinner⟩
  · intro made hmade named hnamed
    have hlocate := (hread _ (Artifacts.mem_planAll_of_document hmade hnamed)).1
    refine ⟨_, FileTree.locate_of_isDirectory (hconfig.jsonDir_stands made.platform), ?_⟩
    rw [hlocate, Except.ok.injEq]
    exact FileTree.fileAt_document_iff _ _ _
  · intro hplain
    have hnodup := Artifacts.nodup_planAll hconfig (hartifacts ▸ hplatforms) hplain hnames
    refine ⟨hnodup, fun file hfile => ?_⟩
    exact (hread file hfile).2 file (PlannedFile.isLastAt_of_nodup hnodup hfile)

/-! ### A name with a slash and one without -/

/-- Four directories side by side. -/
def sidedConfig : Config :=
  { Config.standard with
    serverHeaderDir := "out/sh"
    serverJsonDir := "out/sj"
    clientHeaderDir := "out/ch"
    clientJsonDir := "out/cj" }

/-- A tree with the directories. -/
def sidedTree : FileTree where
  entries := [
    (["out"], .directory),
    (["out", "sh"], .directory),
    (["out", "sj"], .directory),
    (["out", "ch"], .directory),
    (["out", "cj"], .directory)]
  workingDirectory := []

/-- Two data sheets. -/
def pairNamed (name other : String) : Workbook where
  sheets := [
    ⟨name, ["Id"], [["int32_cs"], ["1"]]⟩,
    ⟨other, ["Id"], [["int32_cs"], ["2"]]⟩]
  exportedAt := none

theorem sidedConfig_setsApart : sidedConfig.SetsApart sidedTree where
  headerDir_stands platform := by cases platform <;> decide +kernel
  jsonDir_stands platform := by cases platform <;> decide +kernel
  headerDir_inj platform other := by cases platform <;> cases other <;> decide +kernel
  jsonDir_inj platform other := by cases platform <;> cases other <;> decide +kernel
  headerDir_ne_jsonDir platform other := by cases platform <;> cases other <;> decide +kernel
  enumFile_isPlain platform := by cases platform <;> decide +kernel
  dataFile_isPlain platform := by cases platform <;> decide +kernel
  enumFile_ne_dataFile platform := by cases platform <;> decide +kernel

/-- The workbook is compiled for both platforms and written into the tree. -/
def Leaves (workbook : Workbook) (artifacts : List Artifacts) (last : FileTree) : Prop :=
  (workbook.compile sidedConfig [.server, .client]).outcome = .ok artifacts ∧
    ∃ reported paths,
      (PlannedFile.writeAll FileTree.disk (Artifacts.planAll sidedConfig artifacts)).run sidedTree =
        (reported, last) ∧
      reported.outcome = .ok paths

theorem exists_leaves (workbook : Workbook) (check : List Artifacts → FileTree → Bool)
    (h : (match (workbook.compile sidedConfig [.server, .client]).outcome with
      | .error _ => false
      | .ok artifacts =>
        let plan := Artifacts.planAll sidedConfig artifacts
        let run := (PlannedFile.writeAll FileTree.disk plan).run sidedTree
        run.1.outcome.isOk && check artifacts run.2) = true) :
    ∃ artifacts last, workbook.Leaves artifacts last ∧ check artifacts last = true := by
  split at h
  · cases h
  · rename_i artifacts hcompile
    dsimp only at h
    cases hrun : (PlannedFile.writeAll FileTree.disk
        (Artifacts.planAll sidedConfig artifacts)).run sidedTree with
    | mk reported last =>
      rw [hrun] at h
      obtain ⟨hok, hcheck⟩ := Bool.and_eq_true_iff.mp h
      cases hwrite : reported.outcome with
      | error cause =>
        simp only [hwrite] at hok
        cases hok
      | ok paths =>
        exact ⟨artifacts, last, ⟨hcompile, reported, paths, hrun, hwrite⟩, hcheck⟩

/-- Two names without slashes give eight files, each with its own text. -/
theorem pairNamed_apart :
    sidedConfig.SetsApart sidedTree ∧ [Platform.server, Platform.client].Nodup ∧
      ∃ artifacts last, (pairNamed "Item" "Skill").Leaves artifacts last ∧
        (Artifacts.planAll sidedConfig artifacts).map (·.path) =
          ["out/sh/gamedata_enum.h", "out/sh/gamedata_data.h", "out/sj/Item.json",
            "out/sj/Skill.json", "out/ch/GameDataEnum.h", "out/ch/GameData.h", "out/cj/Item.json",
            "out/cj/Skill.json"] ∧
        ∀ file ∈ Artifacts.planAll sidedConfig artifacts,
          last.read? file.path = some file.text := by
  obtain ⟨artifacts, last, hleaves, hcheck⟩ := exists_leaves (pairNamed "Item" "Skill")
    (fun artifacts _ =>
      (artifacts.all fun made => made.documents.all fun named => !named.1.toList.contains '/') &&
        (Artifacts.planAll sidedConfig artifacts).map (·.path) ==
          ["out/sh/gamedata_enum.h", "out/sh/gamedata_data.h", "out/sj/Item.json",
            "out/sj/Skill.json", "out/ch/GameDataEnum.h", "out/ch/GameData.h", "out/cj/Item.json",
            "out/cj/Skill.json"])
    (by decide +kernel)
  obtain ⟨hslashes, hpaths⟩ := Bool.and_eq_true_iff.mp hcheck
  have hplain : ∀ made ∈ artifacts, ∀ named ∈ made.documents, '/' ∉ named.1.toList := by
    intro made hmade named hnamed
    simpa using List.all_eq_true.mp (List.all_eq_true.mp hslashes made hmade) named hnamed
  have hdifferent : [Platform.server, Platform.client].Nodup := by decide
  obtain ⟨hcompile, reported, paths, hrun, hwrite⟩ := hleaves
  obtain ⟨-, -, -, hown⟩ :=
    artifacts_apart sidedConfig_setsApart hdifferent hcompile hrun hwrite
  exact ⟨sidedConfig_setsApart, hdifferent, artifacts, last,
    ⟨hcompile, reported, paths, hrun, hwrite⟩, eq_of_beq hpaths, (hown hplain).2⟩

/-- A document whose name leads out of the server's directory is not in this directory, and is
overwritten by a document of the client. -/
theorem crossing_overwritten :
    sidedConfig.SetsApart sidedTree ∧ [Platform.server, Platform.client].Nodup ∧
      (["out/sh", "out/sj", "out/ch", "out/cj"].map (view.fileAt sidedTree)).Pairwise
        (fun directory other => ¬ directory <+: other ∧ ¬ other <+: directory) ∧
      ∃ artifacts last, (pairNamed "../cj/Item" "Item").Leaves artifacts last ∧
        ∃ file ∈ Artifacts.planAll sidedConfig artifacts,
          file.path = Path.join (sidedConfig.jsonDir .server) ("../cj/Item" ++ ".json") ∧
          last.locate file.path =
            .ok (view.fileAt sidedTree (sidedConfig.jsonDir .client) ++ ["Item.json"]) ∧
          last.read? file.path ≠ some file.text := by
  obtain ⟨artifacts, last, hleaves, hcheck⟩ := exists_leaves (pairNamed "../cj/Item" "Item")
    (fun artifacts last => (Artifacts.planAll sidedConfig artifacts).any fun file =>
      decide (file.path = Path.join (sidedConfig.jsonDir .server) ("../cj/Item" ++ ".json") ∧
        last.locate file.path =
          .ok (view.fileAt sidedTree (sidedConfig.jsonDir .client) ++ ["Item.json"])) &&
      (Artifacts.planAll sidedConfig artifacts).getLast?.any fun winner =>
        decide (view.fileAt sidedTree winner.path = view.fileAt sidedTree file.path ∧
          winner.text ≠ file.text))
    (by decide +kernel)
  obtain ⟨file, hfile, hchecked⟩ := List.any_eq_true.mp hcheck
  obtain ⟨hplaced, hreplaced⟩ := Bool.and_eq_true_iff.mp hchecked
  obtain ⟨hpath, hlocate⟩ := of_decide_eq_true hplaced
  -- the last file of all is at the same location, with another text
  obtain ⟨winner, hwinner, hsame⟩ := (Option.any_eq_true _ _).mp hreplaced
  obtain ⟨hlocation, htext⟩ := of_decide_eq_true hsame
  obtain ⟨before, hplan⟩ := List.getLast?_eq_some_iff.mp hwinner
  have hread : last.read? file.path = some winner.text := by
    obtain ⟨-, reported, paths, hrun, hwrite⟩ := hleaves
    exact ((FileTree.read?_of_writeAll hrun hwrite).2 file hfile).2 winner
      ⟨before, [], hplan, hlocation, nofun⟩
  refine ⟨sidedConfig_setsApart, by decide, by decide +kernel, artifacts, last, hleaves, file,
    hfile, hpath, hlocate, ?_⟩
  rw [hread]
  exact fun heq => htext (Option.some.inj heq)

end Workbook

end GameSheets
