/-
  What compiling says of a workbook and its artifacts.

  A workbook compiles where it merges and the merged workbook has artifacts for each platform.  The
  artifacts of a platform are made of three things, which come from the merged workbook apart from
  each other: the tables behind the documents, the enumerations behind the enum header, and the
  records behind the data header (`Workbook.Makes`).
-/
import GameSheets.Compile
import GameSheets.Proofs.Outcome

namespace GameSheets.Workbook

variable {workbook : Workbook} {config : Config}

/-- The artifacts are those that a merged workbook makes of these tables, enumerations and
records. -/
structure Makes (merged : Workbook) (config : Config) (artifacts : Artifacts)
    (tables : List TypedTable) (enumerations : List Enumeration) (records : List Record) :
    Prop where
  refine_eq : (merged.refine artifacts.platform).outcome = .ok tables
  documents_eq :
    tables.mapM (namedDocument config artifacts.platform) = .ok artifacts.documents
  enumerations_eq : merged.enumerations = .ok enumerations
  enumHeader_eq : Header.enumHeader config merged.exportedAt artifacts.platform enumerations =
    .ok artifacts.enumHeader
  records_eq : merged.records artifacts.platform config.rowNameField = .ok records
  dataHeader_eq :
    artifacts.dataHeader = Header.dataHeader config merged.exportedAt artifacts.platform records

theorem enumHeader_eq_ok {platform : Platform} {header : String} :
    workbook.enumHeader config platform = .ok header ↔
      ∃ enumerations, workbook.enumerations = .ok enumerations ∧
        Header.enumHeader config workbook.exportedAt platform enumerations = .ok header := by
  unfold enumHeader
  cases workbook.enumerations with
  | error cause => simp
  | ok enumerations => simp

theorem dataHeader_eq_ok {platform : Platform} {header : String} :
    workbook.dataHeader config platform = .ok header ↔
      ∃ records, workbook.records platform config.rowNameField = .ok records ∧
        header = Header.dataHeader config workbook.exportedAt platform records := by
  unfold dataHeader
  cases workbook.records platform config.rowNameField with
  | error cause => simp
  | ok records => simp [eq_comm]

/-- A workbook has the artifacts that it makes of its tables, enumerations and records. -/
theorem artifactsFor_eq_ok {platform : Platform} {artifacts : Artifacts} :
    (workbook.artifactsFor config platform).outcome = .ok artifacts ↔
      artifacts.platform = platform ∧ ∃ tables enumerations records,
        workbook.Makes config artifacts tables enumerations records := by
  have hsteps : (workbook.artifactsFor config platform).outcome = .ok artifacts ↔
      ∃ tables, (workbook.refine platform).outcome = .ok tables ∧
        ∃ documents, tables.mapM (namedDocument config platform) = .ok documents ∧
          ∃ enumHeader, workbook.enumHeader config platform = .ok enumHeader ∧
            ∃ dataHeader, workbook.dataHeader config platform = .ok dataHeader ∧
              (⟨platform, enumHeader, dataHeader, documents⟩ : Artifacts) = artifacts := by
    unfold artifactsFor
    simp only [Reported.outcome_bind, Reported.outcome_lift, Reported.outcome_mapError,
      Reported.outcome_report, Reported.outcome_pure, Outcome.bind_eq_ok, Outcome.mapError_eq_ok,
      Except.ok.injEq, true_and, exists_const]
  rw [hsteps]
  constructor
  · rintro ⟨tables, htables, documents, hdocuments, header, hheader, data, hdata, rfl⟩
    obtain ⟨enumerations, henumerations, hheaderEq⟩ := enumHeader_eq_ok.mp hheader
    obtain ⟨records, hrecords, hdataEq⟩ := dataHeader_eq_ok.mp hdata
    exact ⟨rfl, tables, enumerations, records,
      ⟨htables, hdocuments, henumerations, hheaderEq, hrecords, hdataEq⟩⟩
  · rintro ⟨rfl, tables, enumerations, records, hmakes⟩
    exact ⟨tables, hmakes.refine_eq, _, hmakes.documents_eq,
      _, enumHeader_eq_ok.mpr ⟨enumerations, hmakes.enumerations_eq, hmakes.enumHeader_eq⟩,
      _, dataHeader_eq_ok.mpr ⟨records, hmakes.records_eq, hmakes.dataHeader_eq⟩, rfl⟩

/-- A workbook compiles to the artifacts that the merged workbook has for each platform, in
order. -/
theorem compile_eq_ok {platforms : List Platform} {compiled : List Artifacts} :
    (workbook.compile config platforms).outcome = .ok compiled ↔
      ∃ merged, workbook.merge.outcome = .ok merged ∧
        List.Forall₂
          (fun platform artifacts => (merged.artifactsFor config platform).outcome = .ok artifacts)
          platforms compiled := by
  unfold compile
  simp only [Reported.outcome_bind, Reported.outcome_mapError, Reported.outcome_report,
    Outcome.bind_eq_ok, Outcome.mapError_eq_ok, Outcome.forEach_eq_ok, true_and, exists_const]

/-- Artifacts of a compiled workbook are made by the merged one. -/
theorem makes_of_compile {platforms : List Platform} {compiled : List Artifacts}
    (hcompile : (workbook.compile config platforms).outcome = .ok compiled) :
    ∃ merged, workbook.merge.outcome = .ok merged ∧
      ∀ artifacts ∈ compiled, ∃ tables enumerations records,
        merged.Makes config artifacts tables enumerations records := by
  obtain ⟨merged, hmerge, hartifacts⟩ := compile_eq_ok.mp hcompile
  refine ⟨merged, hmerge, ?_⟩
  intro artifacts hmem
  obtain ⟨platform, -, hmade⟩ := Outcome.exists_of_mem_right hartifacts hmem
  exact (artifactsFor_eq_ok.mp hmade).2

end GameSheets.Workbook
