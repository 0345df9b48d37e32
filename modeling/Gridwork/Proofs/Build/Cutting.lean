import Gridwork.Build.Session
import Gridwork.Proofs.Json.Exchange

/-!
# Rows cut short

A header can be cut to its first labels and a data row to its first columns, where the style stays
in either case, wherever it stands (`Json.cutHeader`, `Json.cutRow`). What is read from a row that
was cut is what is read from the whole one, with as many columns (`HeaderPlan.read_cutHeader`,
`RowPlan.read_cutRow`).
-/

namespace Gridwork

namespace Json

/-! ### Cutting -/

/-- The first columns of a data row, with all that is said of its style. -/
def Entries.cut (n : Nat) : Entries → Entries
  | [] => []
  | entry :: rest =>
    if Field.isStyle entry.1 then entry :: Entries.cut n rest
    else if n = 0 then Entries.cut 0 rest
    else entry :: Entries.cut (n - 1) rest

/-- A data row cut to its first columns. -/
def cutRow (n : Nat) : Json → Json
  | .obj entries => .obj (Entries.cut n entries)
  | v => v

/-- A header cut to its first labels. -/
def cutHeader (n : Nat) : Json → Json
  | .obj entries =>
    match Entries.field entries Field.columns with
    | .arr labels => .obj (Entries.exchange Field.columns (.arr (labels.take n)) entries)
    | _ => .obj entries
  | v => v

theorem Entries.columns_cons (entry : Text × Json) (rest : Entries) :
    Entries.columns (entry :: rest)
      = if Field.isStyle entry.1 then Entries.columns rest else entry :: Entries.columns rest := by
  rw [columns, List.filter_cons]
  cases Field.isStyle entry.1 <;> rfl

/-- The columns are cut like a list. -/
theorem Entries.columns_cut (n : Nat) (entries : Entries) :
    (Entries.cut n entries).columns = entries.columns.take n := by
  induction entries generalizing n with
  | nil => exact List.take_nil.symm
  | cons entry rest ih =>
    rw [cut, columns_cons]
    by_cases hstyle : Field.isStyle entry.1 = true
    · -- the style is no column, on either side
      rw [if_pos hstyle, if_pos hstyle, columns_cons, if_pos hstyle, ih]
    · rw [if_neg hstyle, if_neg hstyle]
      cases n with
      | zero => rw [if_pos rfl, ih, List.take_zero, List.take_zero]
      | succ n =>
        rw [if_neg (Nat.succ_ne_zero n), columns_cons, if_neg hstyle, ih, List.take_succ_cons]
        rfl

theorem Entries.get?_cut {key : Text} (h : Field.isStyle key = true) (n : Nat)
    (entries : Entries) : (Entries.cut n entries).get? key = entries.get? key := by
  induction entries generalizing n with
  | nil => rfl
  | cons entry rest ih =>
    obtain ⟨k, v⟩ := entry
    unfold Entries.get? at ih ⊢
    rw [cut]
    by_cases hstyle : Field.isStyle k = true
    · rw [if_pos hstyle, lookup_cons_eq, lookup_cons_eq, ih]
    · -- a column does not have the key of a style
      have hne : key ≠ k := by
        rintro rfl
        exact hstyle h
      rw [if_neg hstyle, lookup_cons_eq key k, if_neg hne]
      by_cases hn : n = 0
      · rw [if_pos hn, ih]
      · rw [if_neg hn, lookup_cons_eq, if_neg hne, ih]

theorem Entries.field?_style_cut (n : Nat) (entries : Entries) :
    (Entries.cut n entries).field? Field.style = entries.field? Field.style := by
  have hspellings : ∀ key ∈ Field.spellings Field.style, Field.isStyle key = true := by decide
  refine eq_of_rel_eq (rel_field?_of_get? fun key hkey => ?_)
  rw [get?_cut (hspellings key hkey)]
  cases entries.get? key with
  | none => exact .none
  | some v => exact .some rfl

end Json

/-! ### Reading what was cut -/

theorem readStyleField_congr {path : Text} {a b : Json.Entries}
    (h : a.field? Field.style = b.field? Field.style) :
    readStyleField path a = readStyleField path b := by
  rw [readStyleField, h, readStyleField]

/-- A data row that was cut has the first columns and the same style. -/
theorem RowPlan.read_cutRow (path : Text) (n : Nat) (node : Json) :
    RowPlan.read path (node.cutRow n)
      = (RowPlan.read path node).map fun plan => ⟨plan.style, plan.columns.take n⟩ := by
  cases node with
  | null | bool | int | float | str | arr => rfl
  | obj entries =>
    have hcolumns := Json.Entries.columns_cut n entries
    unfold Json.Entries.columns at hcolumns
    rw [Json.cutRow, RowPlan.read, RowPlan.read, hcolumns,
      readStyleField_congr (Json.Entries.field?_style_cut n entries)]
    cases readStyleField path entries <;> rfl

/-- A header that was cut has the first labels and the same style. -/
theorem HeaderPlan.read_cutHeader (path : Text) (n : Nat) (node : Json) :
    HeaderPlan.read path (node.cutHeader n)
      = (HeaderPlan.read path node).map fun plan => ⟨plan.style, plan.columns.take n⟩ := by
  cases node with
  | null | bool | int | float | str | arr => rfl
  | obj entries =>
    rw [Json.cutHeader]
    cases hfield : Json.Entries.field entries Field.columns with
    | arr labels =>
      have hnotnull : Json.Entries.field entries Field.columns ≠ .null := by
        rw [hfield]
        exact Json.noConfusion
      have hself := Json.Entries.field_exchange_self hnotnull (.arr (labels.take n))
      have hstyle := Json.Entries.field?_exchange_of_ne Field.columns Field.style (by decide)
        (by decide) (by decide) (.arr (labels.take n)) entries
      dsimp only
      rw [HeaderPlan.read, hself, HeaderPlan.read, hfield]
      dsimp only
      rw [readStyleField_congr hstyle]
      cases readStyleField path entries <;> rfl
    | null | bool | int | float | str | obj =>
      -- without labels there is nothing to cut, and nothing is read
      dsimp only
      rw [HeaderPlan.read, hfield]
      rfl

/-! ### Actions -/

/-- An action that writes a row, cut to the first columns of the row. -/
def Action.cut (n : Nat) : Action → Action
  | .header i path node => .header i path (node.cutHeader n)
  | .row i path node => .row i path (node.cutRow n)
  | a => a

end Gridwork
