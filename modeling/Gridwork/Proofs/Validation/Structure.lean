import Gridwork.Proofs.Json.Reordering
import Gridwork.Validation

/-!
# What the structure of a request depends on

Whether a request has the structure of a workbook description is found out by looking up a few
fields: the workbook, its name and its sheets, and the name of the first sheet
(`Validation.structureKeys`). At each of these it only matters whether there is an object, an array,
a text or something else.

So two requests lack the same of their structure if they are related in a way that passes on from
two nodes to what stands one step down, under those keys and in arrays
(`Validation.SharesStructure`). What the two have under other keys is of no matter:
`SharesStructure.structureViolations_eq`.
-/

namespace Gridwork.Validation

open Json

/-- The keys that are looked up to find out the structure. -/
def structureKeys : List Text :=
  Field.workbook :: Field.spellings Field.name ++ Field.spellings Field.sheets

/-- What two related nodes have in common as far as the structure can tell. -/
inductive StructureLayer (R : Json → Json → Prop) : Json → Json → Prop
  | same (v : Json) : StructureLayer R v v
  | arr {items items' : List Json} (h : List.Forall₂ R items items') :
      StructureLayer R (.arr items) (.arr items')
  | obj {a b : Entries} (h : ∀ k ∈ structureKeys, Option.Rel R (a.get? k) (b.get? k)) :
      StructureLayer R (.obj a) (.obj b)

/-- A relation between nodes that passes on wherever the structure is looked at. -/
structure SharesStructure (R : Json → Json → Prop) : Prop where
  null : R .null .null
  layer : ∀ {v w}, R v w → StructureLayer R v w

namespace SharesStructure

variable {R : Json → Json → Prop} {a b : Entries} {v w : Json}

/-- A field that is looked up under its spellings. -/
theorem field (hR : SharesStructure R)
    (h : ∀ k ∈ structureKeys, Option.Rel R (a.get? k) (b.get? k)) {name : Text}
    (hname : ∀ k ∈ Field.spellings name, k ∈ structureKeys) :
    R (Entries.field a name) (Entries.field b name) :=
  Entries.rel_field_of_field? (Entries.rel_field?_of_get? fun k hk => h k (hname k hk)) hR.null

theorem hasName (hR : SharesStructure R)
    (h : ∀ k ∈ structureKeys, Option.Rel R (a.get? k) (b.get? k)) :
    hasText a Field.name = hasText b Field.name := by
  have hspellings : ∀ k ∈ Field.spellings Field.name, k ∈ structureKeys := by decide
  have hname := hR.layer (hR.field h hspellings)
  unfold hasText
  generalize Entries.field a Field.name = x at hname
  generalize Entries.field b Field.name = y at hname
  -- an array or an object is no text on either side
  cases hname with
  | same | arr | obj => rfl

theorem firstSheet (hR : SharesStructure R) (h : R v w) :
    firstSheetViolations v = firstSheetViolations w := by
  cases hR.layer h with
  | same => rfl
  | arr _ => rfl
  | obj hkeys => rw [firstSheetViolations, firstSheetViolations, hR.hasName hkeys]

theorem sheets (hR : SharesStructure R) (h : R v w) : sheetsViolations v = sheetsViolations w := by
  cases hR.layer h with
  | same => rfl
  | obj _ => rfl
  | arr hitems =>
    -- only the first sheet is looked at
    cases hitems with
    | nil => rfl
    | cons hfirst _ => exact hR.firstSheet hfirst

/-- **Related requests lack the same of their structure.** -/
theorem structureViolations_eq (hR : SharesStructure R) (h : R v w) :
    structureViolations v = structureViolations w := by
  have hspellings : ∀ k ∈ Field.spellings Field.sheets, k ∈ structureKeys := by decide
  cases hR.layer h with
  | same => rfl
  | arr _ => rfl
  | @obj a b hkeys =>
    have hworkbook := hkeys Field.workbook (by decide)
    dsimp only [structureViolations]
    generalize Entries.get? a Field.workbook = x at hworkbook
    generalize Entries.get? b Field.workbook = y at hworkbook
    cases hworkbook with
    | none => rfl
    | some hvalue =>
      cases hR.layer hvalue with
      | same => rfl
      | arr _ => rfl
      | obj hkeys =>
        dsimp only
        rw [hR.hasName hkeys, hR.sheets (hR.field hkeys hspellings)]

end SharesStructure

end Gridwork.Validation
