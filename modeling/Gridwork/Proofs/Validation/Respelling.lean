import Gridwork.Proofs.Json.Respelling
import Gridwork.Validation

/-!
# Validation does not depend on spelling

The violations of two respelled requests say different places, since a place is told by the keys as
they are written. But there are equally many of them (`length_violations_of_respelled`).

The walks look at a key only through `Field.isAllowed` and `Field.isBusinessData`, which do not tell
spellings apart, and at a place not at all. So two trees are **walked alike** (`WalkedAlike`) if
their keys stand for the same fields; the structure is the same because it is told by canonical
names.
-/

namespace Gridwork

namespace Validation

/-! ### Trees that are walked alike -/

/-- Two trees are walked alike if, wherever they stand, every walk finds equally many violations in
both. -/
structure WalkedAlike (v w : Json) : Prop where
  path : ∀ place place', (pathViolations place v).length = (pathViolations place' w).length
  scan : ∀ place place', (scanBelow place v).length = (scanBelow place' w).length
  walk : ∀ scan place place', (walk scan place v).length = (walk scan place' w).length

/-- The members of two arrays are walked one by one. -/
theorem WalkedAlike.arr {as bs : List Json} (h : List.Forall₂ WalkedAlike as bs) :
    WalkedAlike (.arr as) (.arr bs) := by
  have hscan : ∀ place place' i,
      (scanItems place i as).length = (scanItems place' i bs).length := by
    intro place place'
    -- the index only goes into the places that are told
    induction h with
    | nil =>
      intro i
      rfl
    | cons hv _ ih =>
      intro i
      simp only [scanItems, List.length_append]
      rw [hv.path, hv.scan, ih]
  have hwalk : ∀ scan place place' i,
      (walkItems scan place i as).length = (walkItems scan place' i bs).length := by
    clear hscan
    intro scan place place'
    induction h with
    | nil =>
      intro i
      rfl
    | cons hv _ ih =>
      intro i
      simp only [walkItems, List.length_append]
      rw [hv.path, hv.walk, ih]
  refine ⟨fun place place' => rfl, fun place place' => ?_, fun scan place place' => ?_⟩
  · rw [scanBelow, scanBelow, hscan]
  · rw [Validation.walk, Validation.walk, hwalk]

/-- The entries of two objects are walked one by one, and a key matters only for the field that it
stands for. -/
theorem WalkedAlike.obj {a b : Json.Entries}
    (h : List.Forall₂ (fun e e' => Field.canonical e.1 = Field.canonical e'.1 ∧
      WalkedAlike e.2 e'.2) a b) : WalkedAlike (.obj a) (.obj b) := by
  have hscan : ∀ place place', (scanEntries place a).length = (scanEntries place' b).length := by
    intro place place'
    induction h with
    | nil => rfl
    | cons hentry _ ih =>
      simp only [scanEntries, List.length_append]
      rw [hentry.2.path, hentry.2.scan, ih]
  have hwalk : ∀ scan place place',
      (walkEntries scan place a).length = (walkEntries scan place' b).length := by
    clear hscan
    intro scan place place'
    induction h with
    | nil => rfl
    | @cons e e' _ _ hentry _ ih =>
      obtain ⟨hkey, hvalue⟩ := hentry
      -- the same walk goes on below both values, and both keys are allowed or neither is
      have hbelow : ∀ here here' : Location,
          (if Field.isBusinessData e.1 then (if scan then scanBelow here e.2 else [])
            else (if Field.isAllowed e.1 then [] else [.notAllowed here])
              ++ Validation.walk scan here e.2).length
          = (if Field.isBusinessData e'.1 then (if scan then scanBelow here' e'.2 else [])
            else (if Field.isAllowed e'.1 then [] else [.notAllowed here'])
              ++ Validation.walk scan here' e'.2).length := by
        intro here here'
        rw [Field.isBusinessData_congr hkey, Field.isAllowed_congr hkey]
        split
        · split
          · exact hvalue.scan here here'
          · rfl
        · rw [List.length_append, List.length_append, hvalue.walk scan here here']
          split <;> rfl
      simp only [walkEntries, List.length_append]
      rw [hvalue.path, hbelow, ih]
  refine ⟨fun place place' => rfl, fun place place' => ?_, fun scan place place' => ?_⟩
  · rw [scanBelow, scanBelow, hscan]
  · rw [Validation.walk, Validation.walk, hwalk]

/-- A tree is walked alike wherever it stands. -/
theorem WalkedAlike.refl (v : Json) : WalkedAlike v v := by
  induction v using Json.induction_children with
  | node v ih =>
    cases v with
    | null | bool | int | float => exact ⟨fun _ _ => rfl, fun _ _ => rfl, fun _ _ _ => rfl⟩
    | str s =>
      refine ⟨fun place place' => ?_, fun _ _ => rfl, fun _ _ _ => rfl⟩
      rw [pathViolations, pathViolations]
      split <;> rfl
    | arr items =>
      refine .arr (List.forall₂_same.mpr fun v hv => ?_)
      obtain ⟨i, hi⟩ := List.getElem?_of_mem hv
      exact ih (.index i, v) (List.mem_map.mpr
        ⟨(v, i), List.mk_mem_zipIdx_iff_getElem?.mpr hi, rfl⟩)
    | obj entries =>
      refine .obj (List.forall₂_same.mpr fun entry hentry => ⟨rfl, ?_⟩)
      exact ih (.key entry.1, entry.2) (List.mem_map.mpr ⟨entry, hentry, rfl⟩)

/-! ### Respelled trees -/

section Respelled

variable {v w : Json}

/-- Respelled objects are walked alike if their values are. -/
theorem walkedAlike_of_respelled {stands : Text → Text}
    {part : Text → Json → Json → Prop}
    (hstands : ∀ k l, stands k = stands l → Field.canonical k = Field.canonical l)
    (hpart : ∀ k v w, part k v w → WalkedAlike v w) (h : Json.Respelled stands part v w) :
    WalkedAlike v w := by
  cases h with
  | same => exact .refl v
  | obj h =>
    exact .obj (h.agree.imp fun e e' hentry => ⟨hstands _ _ hentry.1, hpart _ _ _ hentry.2⟩)

theorem walkedAlike_of_each {member : Json → Json → Prop}
    (hmember : ∀ v w, member v w → WalkedAlike v w) (h : Json.EachRespelled member v w) :
    WalkedAlike v w := by
  cases h with
  | same => exact .refl v
  | arr h => exact .arr (h.imp hmember)

/-- Equal values are walked alike. -/
theorem walkedAlike_of_eq (h : v = w) : WalkedAlike v w := h ▸ .refl v

theorem walkedAlike_of_style (h : Json.RespelledStyle v w) : WalkedAlike v w :=
  walkedAlike_of_respelled (fun _ _ => id) (fun _ _ _ => walkedAlike_of_eq) h

theorem walkedAlike_of_stylePart :
    ∀ (k : Text) (v w : Json), Json.stylePart k v w → WalkedAlike v w :=
  Json.underField_imp (fun _ _ h => walkedAlike_of_style h) fun _ _ _ h => walkedAlike_of_eq h

theorem walkedAlike_of_header (h : Json.RespelledHeader v w) : WalkedAlike v w :=
  walkedAlike_of_respelled (fun _ _ => id) walkedAlike_of_stylePart h

/-- The columns of a data row are the same, and its style stands for the same. -/
theorem walkedAlike_of_row (h : Json.RespelledRow v w) : WalkedAlike v w :=
  walkedAlike_of_respelled (fun _ _ => Field.canonical_eq_of_rowKey_eq) walkedAlike_of_stylePart h

theorem walkedAlike_of_sheet (h : Json.RespelledSheet v w) : WalkedAlike v w := by
  refine walkedAlike_of_respelled (fun _ _ => id) ?_ h
  refine Json.underField_imp (fun _ _ h => walkedAlike_of_header h) ?_
  refine Json.underField_imp (fun _ _ => ?_) fun _ _ _ h => walkedAlike_of_eq h
  exact walkedAlike_of_each fun _ _ h => walkedAlike_of_row h

theorem walkedAlike_of_workbook (h : Json.RespelledWorkbook v w) : WalkedAlike v w := by
  refine walkedAlike_of_respelled (fun _ _ => id) ?_ h
  refine Json.underField_imp (fun _ _ => ?_) fun _ _ _ h => walkedAlike_of_eq h
  exact walkedAlike_of_each fun _ _ h => walkedAlike_of_sheet h

theorem walkedAlike_of_request (h : Json.RespelledRequest v w) : WalkedAlike v w := by
  refine walkedAlike_of_respelled (fun _ _ => congrArg Field.canonical) ?_ h
  refine Json.underField_imp (fun _ _ h => walkedAlike_of_workbook h) ?_
  exact fun _ _ _ h => walkedAlike_of_eq h

/-! ### Structure -/

theorem hasText_congr {a b : Json.Entries} {name : Text}
    (h : Json.Entries.field a name = Json.Entries.field b name) :
    hasText a name = hasText b name := by
  rw [hasText, hasText, h]

theorem firstSheetViolations_of_respelled (h : Json.RespelledSheet v w) :
    firstSheetViolations v = firstSheetViolations w := by
  cases h with
  | same => rfl
  | obj h => rw [firstSheetViolations, firstSheetViolations, hasText_congr h.name_of_sheet]

theorem sheetsViolations_of_respelled (h : Json.EachRespelled Json.RespelledSheet v w) :
    sheetsViolations v = sheetsViolations w := by
  cases h with
  | same => rfl
  | arr h =>
    cases h with
    | nil => rfl
    | cons hfirst _ => exact firstSheetViolations_of_respelled hfirst

/-- The structure of a workbook is told by canonical names, so it lacks the same. -/
theorem structureViolations_of_respelled (h : Json.RespelledRequest v w) :
    structureViolations v = structureViolations w := by
  cases h with
  | same => rfl
  | @obj a b h =>
    -- what stands for the workbook is an object on both sides, or is the same
    have hworkbook := h.workbook_of_request
    dsimp only [structureViolations]
    generalize Json.Entries.get? a Field.workbook = x at hworkbook
    generalize Json.Entries.get? b Field.workbook = y at hworkbook
    cases hworkbook with
    | none => rfl
    | some hworkbook =>
      cases hworkbook with
      | same => rfl
      | obj h =>
        dsimp only
        rw [hasText_congr h.name_of_workbook,
          sheetsViolations_of_respelled h.sheets_of_workbook]

end Respelled

end Validation

/-- **Equally many violations**, whether the caller's data is scanned or not. -/
theorem length_violations_of_respelled {v w : Json} (h : Json.RespelledRequest v w) (scan : Bool) :
    (violations scan v).length = (violations scan w).length := by
  rw [violations, violations, List.length_append, List.length_append,
    (Validation.walkedAlike_of_request h).walk scan [] [],
    Validation.structureViolations_of_respelled h]

end Gridwork
