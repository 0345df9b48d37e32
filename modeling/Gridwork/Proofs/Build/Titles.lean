import Gridwork.Proofs.Build.Contents
import Gridwork.Proofs.Workbook.TitleSearch

/-!
# The titles of a built workbook

Sheets are titled one after the other, each beside those before it. Their titles are distinct as
long as the search for a title sees the numbers that are in use, which `Title.NoneOvertakes` makes
sure of (`buildWorkbook_titles_nodup`). It asks nothing of names without commas.

Otherwise two sheets can end up with one title. `overtakingRequest` wants the titles `a`, `a,a`,
`a,a1` and `a,a` again. For the last one the search finds `a,a,` where the first title meets the
second, takes up in the middle of the second, and finds `a,a,` again where that meets the third. So
it passes over the beginning of `a,a1` and never comes to its number (`overtakingRequest_titles`).
-/

namespace Gridwork

theorem Json.DescribesRequest.name_ne {request : Json} {forms : List SheetForm}
    (h : request.DescribesRequest forms) : ∀ name ∈ forms.map SheetForm.name, name ≠ "" := by
  obtain ⟨-, -, -, -, hsheets⟩ := h
  intro name hname
  obtain ⟨form, hform, rfl⟩ := List.mem_map.mp hname
  obtain ⟨_, -, -, hnonempty, -, -, -⟩ := exists_mem_left_of_forall₂ hsheets hform
  exact hnonempty

/-- **The titles of a built workbook are distinct**, if no name that is taken in its turn overtakes
itself. -/
theorem buildWorkbook_titles_nodup {request : Json} {w : Workbook} {forms : List SheetForm}
    (hw : request.WellFormed) (hbuilt : (buildWorkbook request).outcome = .ok w)
    (hforms : request.DescribesRequest forms)
    (hnames : Title.NoneOvertakes [] (forms.map (·.name))) : w.titles.Nodup := by
  obtain ⟨forms', hforms', -, rfl⟩ := eq_addForms_of_built hw hbuilt
  -- a request describes no other forms than those that were built
  obtain rfl := hforms.unique hforms'
  rw [Workbook.titles_addForms]
  exact Title.nodup_extend hforms.name_ne hnames

/-! ### Names in a row -/

/-- A request for sheets without columns. -/
def bareRequest (names : List Text) : Json :=
  .obj [("workbook", .obj [("name", .str "q"), ("sheets", .arr (names.map bareSheet))])]

theorem describesRequest_bareRequest {names : List Text} (hnonempty : names ≠ [])
    (h : ∀ name ∈ names, name ≠ "" ∧ name.toList.any Title.isInvalidChar = false) :
    (bareRequest names).DescribesRequest (names.map bareForm) := by
  refine .obj rfl (.obj rfl rfl (by simpa using hnonempty) ?_)
  rw [List.forall₂_map_left_iff, List.forall₂_map_right_iff, List.forall₂_same]
  intro name hname
  obtain ⟨hne, hvalid⟩ := h name hname
  exact describesSheet_bareSheet hne fun c hc =>
    Bool.eq_false_iff.mpr (List.any_eq_false.mp hvalid c hc)

/-- Names that repeat, differ in case, end in digits, have commas, and have one another in them. -/
def crowdedNames : List Text := ["a", "A", "a1", "a", "b,a", "a,b", "A,B", "a,b", "b,a1", "a2"]

theorem buildWorkbook_titles_nodup_crowded :
    ∃ w, (buildWorkbook (bareRequest crowdedNames)).outcome = .ok w ∧
      w.titles = ["a", "A1", "a11", "a12", "b,a", "a,b", "A,B1", "a,b2", "b,a1", "a2"] ∧
        w.titles.Nodup := by
  have hforms : (bareRequest crowdedNames).DescribesRequest (crowdedNames.map bareForm) :=
    describesRequest_bareRequest (by decide) (by decide)
  obtain ⟨w, hbuilt, htitles⟩ := exists_ok_of_map
    (show (buildWorkbook (bareRequest crowdedNames)).outcome.toOption.map Workbook.titles
      = some (["a", "A1", "a11", "a12", "b,a", "a,b", "A,B1", "a,b2", "b,a1", "a2"] : List Text) by
        decide +kernel)
  exact ⟨w, hbuilt, htitles,
    buildWorkbook_titles_nodup (by decide) hbuilt hforms (by decide +kernel)⟩

/-- A request for two sheets of one name that overtakes itself. -/
def overtakingRequest : Json := bareRequest ["a", "a,a", "a,a1", "a,a"]

/-- **A built workbook with one title twice.** -/
theorem overtakingRequest_titles : overtakingRequest.WellFormed ∧
    ∃ w, (buildWorkbook overtakingRequest).outcome = .ok w ∧
      w.titles = ["a", "a,a", "a,a1", "a,a1"] ∧ ¬ w.titles.Nodup := by
  have hwell : overtakingRequest.WellFormed := by decide
  have htwice : ¬ (["a", "a,a", "a,a1", "a,a1"] : List Text).Nodup := by decide
  obtain ⟨w, hbuilt, htitles⟩ := exists_ok_of_map
    (show (buildWorkbook overtakingRequest).outcome.toOption.map Workbook.titles
      = some (["a", "a,a", "a,a1", "a,a1"] : List Text) by decide +kernel)
  exact ⟨hwell, w, hbuilt, htitles, htitles ▸ htwice⟩

end Gridwork
