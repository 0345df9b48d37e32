import Gridwork.Json.Printer
import Gridwork.Number.Whole
import Gridwork.Text.Quoted

/-!
# Trees in messages

`display` gives a tree the way messages show it: truth values and null are words with a capital,
doubles their shortest text, and texts are quoted wherever they lie inside an array or object.

A tree cannot be shown if a whole number in it is too long to be written; `display?` takes that into
account.
-/

namespace Gridwork.Json

/-- The spelling of trees in messages. -/
def Spelling.message : Spelling where
  null := "None"
  bool b := if b then "True" else "False"
  float x := x.text
  str s := (Text.quoted s : Text).toList

/-- The text of a tree in messages; a text by itself is quoted too. -/
def displayQuoted (v : Json) : Text := ⟨print .message v⟩

/-- The text of a tree in messages; a text by itself is not quoted. -/
def display : Json → Text
  | .str s => s
  | v => v.displayQuoted

/-! ### Long numbers -/

mutual

/-- Whether every whole number in a tree can be written. -/
def isWritable : Json → Bool
  | .int n => Whole.isWritable n
  | .arr items => itemsWritable items
  | .obj entries => entriesWritable entries
  | _ => true

/-- Whether every whole number in the members of an array can be written. -/
def itemsWritable : List Json → Bool
  | [] => true
  | v :: rest => isWritable v && itemsWritable rest

/-- Whether every whole number in the entries of an object can be written. -/
def entriesWritable : List (Text × Json) → Bool
  | [] => true
  | (_, v) :: rest => isWritable v && entriesWritable rest

end

theorem itemsWritable_iff {items : List Json} :
    itemsWritable items = true ↔ ∀ v ∈ items, v.isWritable = true := by
  induction items with
  | nil => simp [itemsWritable]
  | cons v rest ih => simp [itemsWritable, ih]

theorem entriesWritable_iff {entries : Entries} :
    entriesWritable entries = true ↔ ∀ entry ∈ entries, entry.2.isWritable = true := by
  induction entries with
  | nil => simp [entriesWritable]
  | cons entry rest ih => simp [entriesWritable, ih]

@[simp] theorem isWritable_int (n : Int) : (int n).isWritable = Whole.isWritable n := by
  rw [isWritable]

@[simp] theorem isWritable_arr (items : List Json) :
    (arr items).isWritable = itemsWritable items := by rw [isWritable]

@[simp] theorem isWritable_obj (entries : Entries) :
    (obj entries).isWritable = entriesWritable entries := by rw [isWritable]

/-- The text of a tree in messages, if there is one. -/
def display? (v : Json) : Option Text := if v.isWritable then some v.display else none

theorem display?_eq_some_iff {v : Json} {t : Text} :
    v.display? = some t ↔ v.isWritable = true ∧ t = v.display := by
  rw [display?, Option.ite_none_right_eq_some, Option.some.injEq, eq_comm (a := t)]

theorem isSome_display? (v : Json) : v.display?.isSome = v.isWritable := by
  rw [display?]
  cases v.isWritable <;> rfl

end Gridwork.Json
