/-
  Hidden cells do not leak.

  Compiling for one platform does not tell a workbook from one that differs in cells hidden from
  that platform: the reports, the artifacts and the error are the same.  Merging leaves twins under
  their own type rows (`Workbook.merge_twins`).  From there on everything is equal: enum sheets are
  equal as they are, data sheets have equal schemas and are refined alike, and neither the headers
  nor the documents look at anything else.
-/
import GameSheets.Compile
import GameSheets.Proofs.Hidden.Merging

namespace GameSheets

/-- The row type of a sheet depends on its name and schema alone. -/
theorem Sheet.Twins.record_eq {hidden : Nat → Prop} {sheet twin : Sheet}
    (h : sheet.Twins hidden twin) (platform : Platform) (rowName : String) :
    Record.ofSheet platform rowName twin = Record.ofSheet platform rowName sheet := by
  unfold Record.ofSheet
  rw [h.schema_eq, h.name_eq]

namespace Workbook.MergedTwins

variable {platform : Platform} {workbook twin : Workbook}

/-- Sheets of a kind that depends on names and columns are twins one by one. -/
theorem filter_twins (h : workbook.MergedTwins platform twin) {ofKind : Sheet → Bool}
    (hkind : ∀ sheet sheetTwin, sheet.MergedTwins platform sheetTwin →
      ofKind sheetTwin = ofKind sheet) :
    List.Forall₂ (Sheet.MergedTwins platform) (workbook.sheets.filter ofKind)
      (twin.sheets.filter ofKind) := by
  refine List.rel_filter ?_ h.sheets_twin
  intro sheet sheetTwin hsheet
  show ofKind sheet = true ↔ ofKind sheetTwin = true
  rw [hkind sheet sheetTwin hsheet]

theorem dataSheets_twins (h : workbook.MergedTwins platform twin) :
    List.Forall₂ (Sheet.MergedTwins platform) workbook.dataSheets twin.dataSheets :=
  h.filter_twins fun _ _ hsheet => hsheet.isData_eq

/-- Enum sheets are the same. -/
theorem enumSheets_eq (h : workbook.MergedTwins platform twin) :
    twin.enumSheets = workbook.enumSheets := by
  have htwins : List.Forall₂ (Sheet.MergedTwins platform) workbook.enumSheets twin.enumSheets :=
    h.filter_twins fun _ _ hsheet => hsheet.isEnumeration_eq
  symm
  rw [← List.forall₂_eq_eq_eq]
  refine (Outcome.forall₂_mem_left htwins).imp ?_
  rintro sheet sheetTwin ⟨hsheet, hsame⟩
  exact (hsame.eq_of_isEnumeration (List.mem_filter.mp hsheet).2).symm

theorem symbolsOf?_eq (h : workbook.MergedTwins platform twin) :
    twin.symbolsOf? = workbook.symbolsOf? := by
  funext name
  rw [symbolsOf?, symbolsOf?, h.enumSheets_eq]

/-! ## Artifacts -/

theorem refine_eq (h : workbook.MergedTwins platform twin) :
    twin.refine platform = workbook.refine platform := by
  have hsheets : List.Forall₂ (fun sheet sheetTwin =>
      twin.refineSheet platform sheetTwin = workbook.refineSheet platform sheet)
      workbook.sheets twin.sheets := by
    refine h.sheets_twin.imp ?_
    intro sheet sheetTwin hsheet
    unfold refineSheet
    rw [hsheet.isData_eq, hsheet.name_eq, h.symbolsOf?_eq, Sheet.refine_congr hsheet]
  unfold refine
  rw [Reported.forEach_congr hsheets.flip]

theorem enumHeader_eq (h : workbook.MergedTwins platform twin) (config : Config) :
    twin.enumHeader config platform = workbook.enumHeader config platform := by
  unfold enumHeader enumerations
  rw [h.enumSheets_eq, h.exportedAt_eq]

theorem dataHeader_eq (h : workbook.MergedTwins platform twin) (config : Config) :
    twin.dataHeader config platform = workbook.dataHeader config platform := by
  have hrecords : twin.records platform config.rowNameField =
      workbook.records platform config.rowNameField :=
    Outcome.mapM_congr (h.dataSheets_twins.imp fun _ _ hsheet => hsheet.record_eq _ _)
  unfold dataHeader
  rw [hrecords, h.exportedAt_eq]

/-- The artifacts of the platform are made alike. -/
theorem artifactsFor_eq (h : workbook.MergedTwins platform twin) (config : Config) :
    twin.artifactsFor config platform = workbook.artifactsFor config platform := by
  unfold artifactsFor
  rw [h.refine_eq, h.enumHeader_eq config, h.dataHeader_eq config, h.enumSheets_eq,
    h.dataSheets_twins.length_eq]

/-- The sheets that nothing is generated of are reported alike. -/
theorem ungenerated_eq (h : workbook.MergedTwins platform twin) :
    twin.ungenerated = workbook.ungenerated := by
  have htwins : List.Forall₂ (Sheet.MergedTwins platform)
      (workbook.sheets.filter (·.kind = .other)) (twin.sheets.filter (·.kind = .other)) := by
    refine h.filter_twins ?_
    intro sheet sheetTwin hsheet
    rw [hsheet.kind_eq]
  symm
  refine Outcome.map_eq_map htwins ?_
  intro sheet sheetTwin hsheet
  rw [hsheet.name_eq]

end Workbook.MergedTwins

namespace Workbook

/-- Workbooks that differ only in cells hidden from a platform compile alike for it: with the same
reports, to the same artifacts or the same error. -/
theorem compile_eq_of_twins {platform : Platform} {workbook twin : Workbook}
    (h : workbook.Twins platform twin) (config : Config) :
    twin.compile config [platform] = workbook.compile config [platform] := by
  symm
  unfold compile
  refine ((merge_twins h).mapError CompileError.merge).bind_eq ?_
  intro merged mergedTwin _ htwins
  rw [htwins.ungenerated_eq]
  refine Reported.bind_congr fun _ _ => Reported.forEach_congr ?_
  exact .cons (htwins.artifactsFor_eq config).symm .nil

/-! ### Two parts with memos and with prices for the client alone -/

/-- The first part, with a given memo and price. -/
def weapons (memo price : String) : Sheet where
  name := "Item_Weapon"
  columns := ["Id", "Title", "#Memo", "Price"]
  rows := [["int32_cs", "string_s", "", "int64_c"], ["1", "Sword", memo, price]]

/-- The second part. -/
def armors : Sheet where
  name := "Item_Armor"
  columns := ["Id", "Title", "#Memo", "Price"]
  rows := [["int32_cs", "string_s", "", "int64_c"], ["2", "Shield", "round", "80"]]

/-- Both parts. -/
def itemsWith (memo price : String) : Workbook where
  sheets := [weapons memo price, armors]
  exportedAt := none

theorem weapons_hides (memo price : String) {position : Nat}
    (h : position = 2 ∨ position = 3) : (weapons memo price).Hides .server position := by
  rcases h with rfl | rfl
  · exact ⟨["int32_cs", "string_s", "", "int64_c"], "#Memo", "", .comment "", rfl, rfl, rfl, rfl,
      rfl⟩
  · exact ⟨["int32_cs", "string_s", "", "int64_c"], "Price", "int64_c",
      .typed .int64 false false true, rfl, rfl, rfl, rfl, rfl⟩

theorem itemsWith_twins (memo price otherMemo otherPrice : String) :
    (itemsWith memo price).Twins .server (itemsWith otherMemo otherPrice) := by
  have hlogical : Sheet.logicalName? "Item_Weapon" = some "Item" := by decide +kernel
  have hmark : isComment "Item_Weapon" = false := by decide +kernel
  have hfirst : Sheet.firstPart? "Item" (itemsWith memo price).sheets =
      some (weapons memo price) := List.find?_cons_of_pos (decide_eq_true hlogical)
  have hrow : Sheet.TwinRows
      (Sheet.HiddenIn .server (itemsWith memo price).sheets (weapons memo price))
      ["1", "Sword", memo, price] ["1", "Sword", otherMemo, otherPrice] := by
    refine ⟨rfl, ?_⟩
    intro position hne
    have hposition : position = 2 ∨ position = 3 := by
      match position with
      | 0 | 1 => exact absurd rfl hne
      | 2 | 3 => decide
      | _ + 4 => exact absurd rfl hne
    exact ⟨by omega, "Item", weapons memo price, hlogical, hfirst,
      weapons_hides memo price hposition⟩
  have hdata : (weapons memo price).isData = true := by
    unfold Sheet.isData Sheet.kind
    rw [show isComment (weapons memo price).name = false from hmark]
    rfl
  refine ⟨rfl, .cons ⟨rfl, rfl, rfl, .cons hrow .nil, ?_⟩ (.cons (.refl _ _) .nil)⟩
  intro hother
  rw [hdata] at hother
  cases hother

/-- A memo and a price that is no number make no difference on the server. -/
theorem itemsWith_compile_eq :
    (itemsWith "sharp" "100").Twins .server (itemsWith "" "unpriced") ∧
      itemsWith "sharp" "100" ≠ itemsWith "" "unpriced" ∧
      (itemsWith "" "unpriced").compile .standard [.server] =
        (itemsWith "sharp" "100").compile .standard [.server] := by
  have htwins := itemsWith_twins "sharp" "100" "" "unpriced"
  exact ⟨htwins, by decide, compile_eq_of_twins htwins .standard⟩

end Workbook

end GameSheets
