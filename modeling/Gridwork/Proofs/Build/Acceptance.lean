import Gridwork.Proofs.Build.Layout
import Gridwork.Proofs.Build.Shown

/-!
# Which requests are built

As long as no sheet has more rows than fit (`Json.RowsFit`), building is decided by the grammar and
the titles alone: `buildWorkbook_accepts_iff` says that a request is built exactly if it describes a
series of sheets whose names all fit, and that everything else is refused with a build error, which
has a wording as long as no number in the request is too long to be written. No other failure is
left.

The names come into it because a number behind a repeated name can be too long to be read.
`repeatingRequest` is a request that follows the grammar and is refused for that reason.
-/

namespace Gridwork

/-- No sheet has more data rows than fit below its header. -/
def Json.RowsFit (request : Json) : Prop :=
  ∀ sheet ∈ (request.part Field.workbook).sheetNodes, sheet.rowNodes.length < Cell.maxRow

instance (request : Json) : Decidable request.RowsFit :=
  inferInstanceAs (Decidable
    (∀ sheet ∈ (request.part Field.workbook).sheetNodes, sheet.rowNodes.length < Cell.maxRow))

/-- The series of sheets that a request describes, with names that all fit. -/
def Json.Buildable (request : Json) : Prop :=
  ∃ forms, request.DescribesRequest forms ∧ Title.AllFit [] (forms.map (·.name))

/-- A request is built, or refused for a reason. -/
theorem buildWorkbook_cases {request : Json} (hw : request.WellFormed) :
    (∃ w, (buildWorkbook request).outcome = .ok w ∧ request.Buildable) ∨
      ∃ e, (buildWorkbook request).outcome = .error e ∧ Build.RequestRefused request e := by
  have h := Build.ends_buildRequest hw
  unfold buildWorkbook
  cases hbuild : Build.buildRequest request ⟨.empty, #[]⟩ with
  | ok a p =>
    obtain ⟨forms, hforms, hfit, -, -⟩ := h.of_ok hbuild
    exact Or.inl ⟨p.state, rfl, forms, hforms, hfit⟩
  | error e p => exact Or.inr ⟨e, rfl, h.of_error hbuild⟩

/-- With enough rows the reason is a build error, and the request cannot be built. -/
theorem Build.RequestRefused.build {request : Json} {e : Failure} (hrows : request.RowsFit)
    (h : Build.RequestRefused request e) : (∃ b, e = .build b) ∧ ¬ request.Buildable := by
  rcases h with ⟨b, he, hnot⟩ | ⟨-, sheet, hsheet, hmany⟩
  · exact ⟨⟨b, he⟩, fun ⟨forms, hforms, hfit⟩ => hnot forms hforms hfit⟩
  · exact absurd (hrows sheet hsheet) (Nat.not_lt.mpr hmany)

/-- **Which requests are built.** -/
theorem buildWorkbook_accepts_iff {request : Json} (hw : request.WellFormed)
    (hrows : request.RowsFit) :
    ((∃ w, (buildWorkbook request).outcome = .ok w) ↔
      ∃ forms, request.DescribesRequest forms ∧ Title.AllFit [] (forms.map (·.name))) ∧
    ((¬ ∃ forms, request.DescribesRequest forms ∧ Title.AllFit [] (forms.map (·.name))) →
      ∃ b, (buildWorkbook request).outcome = .error (.build b) ∧
        (request.isWritable = true → b.isWorded = true)) := by
  rcases buildWorkbook_cases hw with ⟨w, hw', hbuildable⟩ | ⟨e, he, hrefused⟩
  · exact ⟨⟨fun _ => hbuildable, fun _ => ⟨w, hw'⟩⟩, fun hnot => absurd hbuildable hnot⟩
  · obtain ⟨⟨b, rfl⟩, hnot⟩ := hrefused.build hrows
    refine ⟨⟨fun ⟨w, hw'⟩ => ?_, fun hbuildable => absurd hbuildable hnot⟩, fun _ =>
      ⟨b, he, fun hwritable => worded_of_built hwritable he⟩⟩
    rw [he] at hw'
    cases hw'

theorem buildWorkbook_accepts_iff_small : smallRequest.WellFormed ∧ smallRequest.RowsFit ∧
    ((∃ w, (buildWorkbook smallRequest).outcome = .ok w) ↔
      ∃ forms, smallRequest.DescribesRequest forms ∧ Title.AllFit [] (forms.map (·.name))) := by
  have hwell : smallRequest.WellFormed := by decide
  have hrows : smallRequest.RowsFit := by decide
  exact ⟨hwell, hrows, (buildWorkbook_accepts_iff hwell hrows).1⟩

/-! ### A number that is too long -/

/-- A short name with nines behind it. -/
def ninesName (n : Nat) : Text := ⟨.char 'a' :: List.replicate n (.char '9')⟩

/-- The node of a sheet without columns. -/
def bareSheet (name : Text) : Json :=
  .obj [("name", .str name), ("header", .obj [("columns", .arr [])])]

/-- A request that repeats a short name beside one that goes on with nines. -/
def repeatingRequest (n : Nat) : Json :=
  .obj [("workbook", .obj [("name", .str "q"),
    ("sheets", .arr [bareSheet "a", bareSheet (ninesName n), bareSheet "a"])])]

/-- What a sheet without columns describes. -/
def bareForm (name : Text) : SheetForm := ⟨name, ⟨.headerDefault, []⟩, []⟩

theorem describesSheet_bareSheet {name : Text} (hnonempty : name ≠ "")
    (hvalid : ∀ c ∈ name.toList, Title.isInvalidChar c = false) :
    (bareSheet name).DescribesSheet (bareForm name) := by
  have hheader : (Json.obj [("columns", .arr [])]).DescribesHeader ⟨.headerDefault, []⟩ :=
    .obj rfl (by simp) (.absent rfl)
  exact .obj rfl hnonempty hvalid hheader .null

theorem toList_ninesName (n : Nat) :
    (ninesName n).toList = .char 'a' :: List.replicate n (.char '9') := rfl

theorem describesRequest_repeating (n : Nat) :
    (repeatingRequest n).DescribesRequest [bareForm "a", bareForm (ninesName n), bareForm "a"] := by
  have ha : (bareSheet "a").DescribesSheet (bareForm "a") :=
    describesSheet_bareSheet (by decide) (List.forall_mem_singleton.mpr rfl)
  have hnines : (bareSheet (ninesName n)).DescribesSheet (bareForm (ninesName n)) := by
    refine describesSheet_bareSheet (fun hempty => ?_) fun c hc => ?_
    · have hlist := toList_ninesName n
      rw [hempty] at hlist
      cases hlist
    · rw [toList_ninesName] at hc
      rcases List.mem_cons.mp hc with rfl | hc
      · decide
      · rw [List.eq_of_mem_replicate hc]
        decide
  exact .obj rfl (.obj rfl rfl (by simp) (.cons ha (.cons hnines (.cons ha .nil))))

/-- A name with nines is not taken by the short one. -/
theorem given_ninesName {n : Nat} (hn : n ≠ 0) : Title.given ["a"] (ninesName n) = ninesName n := by
  refine if_neg fun h => ?_
  obtain ⟨m, rfl⟩ := Nat.exists_eq_succ_of_ne_zero hn
  obtain ⟨title, htitle, hlower⟩ := h.1
  obtain rfl := List.mem_singleton.mp htitle
  have hshort : Text.lower "a" = "a" := by decide
  -- in lower case the names differ in length
  have hlong : ∃ rest,
      (Text.lower (ninesName (m + 1))).toList = .char 'a' :: .char '9' :: rest := by
    rw [Text.lower, toList_ninesName, List.replicate_succ]
    exact ⟨_, rfl⟩
  obtain ⟨rest, hlong⟩ := hlong
  rw [← hlower, hshort] at hlong
  cases hlong

/-- Beside the short name and nines, the short name does not fit if the nines are too many. -/
theorem not_fits_of_nines {n : Nat} (hn : maxTitleDigits < n) :
    ¬ Title.Fits (Title.extend [] ["a", ninesName n]) "a" := by
  -- both names are given as they are
  have htitles : Title.extend [] ["a", ninesName n] = [.ofString "a", ninesName n] := by
    have hfirst : Title.given [] "a" = "a" := if_neg fun h => by simp [Title.Taken] at h
    change [Title.given [] "a", Title.given [Title.given [] "a"] (ninesName n)] = _
    rw [hfirst, given_ninesName (by omega)]
  -- the search finds no digit behind the first title and all nines behind the second
  have hruns : Title.runsBehind ["a", ninesName n] "a" = [[], List.replicate n 9] := by
    have hjoined : Title.joined ["a", ninesName n]
        = .char 'a' :: .char ',' :: .char 'a' :: List.replicate n (.char '9') := by
      rw [Title.joined, Text.intercalate_cons_cons, Text.intercalate_singleton, Text.toList_append,
        toList_ninesName]
      rfl
    rw [Title.runsBehind, hjoined]
    exact Title.numbersBehind_nines n
  rw [htitles]
  intro hfits
  have htaken : Title.Taken ["a", ninesName n] "a" := ⟨"a", by simp, rfl⟩
  have hlen := (hfits htaken).1 (List.replicate n 9) (by simp [hruns])
  rw [List.length_replicate] at hlen
  omega

/-- **A request that follows the grammar and is refused all the same.** -/
theorem repeatingRequest_refused :
    (repeatingRequest 4301).WellFormed ∧ (repeatingRequest 4301).RowsFit ∧
      (∃ forms, (repeatingRequest 4301).DescribesRequest forms) ∧
        ¬ ∃ w, (buildWorkbook (repeatingRequest 4301)).outcome = .ok w := by
  have hwell : (repeatingRequest 4301).WellFormed := by decide
  have hrows : (repeatingRequest 4301).RowsFit := by decide
  have hforms := describesRequest_repeating 4301
  refine ⟨hwell, hrows, ⟨_, hforms⟩, fun ⟨w, hbuilt⟩ => ?_⟩
  rcases buildWorkbook_cases hwell with ⟨-, -, forms, hforms', hfit⟩ | ⟨e, he, -⟩
  · -- a request describes one series of sheets, and the last name of this one does not fit
    obtain rfl := hforms.unique hforms'
    have hfits := hfit 2 "a" rfl
    exact not_fits_of_nines (by decide) hfits
  · rw [he] at hbuilt
    cases hbuilt

end Gridwork
