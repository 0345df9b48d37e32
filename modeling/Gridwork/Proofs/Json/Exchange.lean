import Gridwork.Proofs.Build.Request
import Gridwork.Proofs.Json.Reordering

/-!
# Giving a field another value

`Json.exchange` gives a field of an object another value. It does so under the spelling under which
the field is read, so the new value is what is read afterwards (`Entries.field?_exchange_self`), and
every other field is read as before (`Entries.field?_exchange_of_ne`). A field that is absent stays
absent.

A request whose sheets are exchanged (`Json.withSheets`) and a sheet whose data rows are exchanged
(`Json.withRows`) are made in this way.
-/

namespace Gridwork.Json

namespace Entries

/-- Gives a field another value, under the first of its spellings that is present. -/
def exchange (name : Text) (value : Json) (entries : Entries) : Entries :=
  match (Field.spellings name).find? fun k => (entries.get? k).isSome with
  | some k => entries.set k value
  | none => entries

/-- The value of a key that comes last in the search is set in its place. -/
theorem set_append_cons {key : Text} {before : Entries} (hfresh : key ∉ before.map Prod.fst)
    (old value : Json) (behind : Entries) :
    Entries.set key value (before ++ (key, old) :: behind) = before ++ (key, value) :: behind := by
  induction before with
  | nil =>
    rw [List.nil_append, List.nil_append, Entries.set, if_pos rfl]
  | cons entry rest ih =>
    rw [List.map_cons, List.mem_cons, not_or] at hfresh
    obtain ⟨hne, hrest⟩ := hfresh
    rw [List.cons_append, List.cons_append, Entries.set, if_neg (Ne.symm hne), ih hrest]

/-- **What is read after the exchange** is the new value, if there was an old one. -/
theorem field?_exchange_self (name : Text) (value : Json) (entries : Entries) :
    (entries.exchange name value).field? name = (entries.field? name).map fun _ => value := by
  unfold exchange
  cases hfind : (Field.spellings name).find? fun k => (entries.get? k).isSome with
  | none =>
    -- no spelling is present
    have hnone : entries.field? name = none := by
      refine List.findSome?_eq_none_iff.mpr fun k hk => ?_
      exact Option.not_isSome_iff_eq_none.mp (List.find?_eq_none.mp hfind k hk)
    dsimp only
    rw [hnone, Option.map_none]
  | some k =>
    obtain ⟨hpresent, before, behind, hsplit, hbefore⟩ := List.find?_eq_some_iff_append.mp hfind
    obtain ⟨old, hold⟩ := Option.isSome_iff_exists.mp hpresent
    -- the spellings before it are absent, also once this one has its new value
    have habsent : ∀ l ∈ before, entries.get? l = none := by
      intro l hl
      have hnot := hbefore l hl
      simpa using hnot
    have hfirst : before.findSome? entries.get? = none :=
      List.findSome?_eq_none_iff.mpr habsent
    have hfirst' : before.findSome? (Entries.set k value entries).get? = none := by
      refine List.findSome?_eq_none_iff.mpr fun l hl => ?_
      have hne : l ≠ k := by
        rintro rfl
        rw [habsent l hl] at hold
        cases hold
      rw [get?_set, if_neg hne]
      exact habsent l hl
    dsimp only [field?]
    rw [hsplit, List.findSome?_append, List.findSome?_append, hfirst, hfirst', Option.none_or,
      Option.none_or, List.findSome?_cons, List.findSome?_cons, hold, get?_set, if_pos rfl]
    rfl

/-- **Other fields are read as before.** -/
theorem field?_exchange_of_ne (name other : Text) (hname : Field.canonical name = name)
    (hother : Field.canonical other = other) (hne : other ≠ name) (value : Json)
    (entries : Entries) : (entries.exchange name value).field? other = entries.field? other := by
  unfold exchange
  cases hfind : (Field.spellings name).find? fun k => (entries.get? k).isSome with
  | none => rfl
  | some k =>
    have hk : Field.canonical k = name :=
      (Field.mem_spellings_iff hname).mp (List.mem_of_find?_eq_some hfind)
    refine eq_of_rel_eq (rel_field?_of_get? fun l hl => ?_)
    -- a key stands for one field only
    have hlk : l ≠ k := by
      rintro rfl
      exact hne (((Field.mem_spellings_iff hother).mp hl).symm.trans hk)
    rw [get?_set, if_neg hlk]
    cases entries.get? l with
    | none => exact .none
    | some v => exact .some rfl

theorem field_exchange_of_ne (name other : Text) (hname : Field.canonical name = name)
    (hother : Field.canonical other = other) (hne : other ≠ name) (value : Json)
    (entries : Entries) :
    Entries.field (entries.exchange name value) other = Entries.field entries other := by
  rw [field, field, field?_exchange_of_ne name other hname hother hne]

/-- A field that is read as something other than null has the new value afterwards. -/
theorem field_exchange_self {name : Text} {entries : Entries}
    (hpresent : Entries.field entries name ≠ .null) (value : Json) :
    Entries.field (entries.exchange name value) name = value := by
  have hfield : ∃ old, entries.field? name = some old := by
    refine Option.ne_none_iff_exists'.mp fun hnone => hpresent ?_
    rw [field, hnone, Option.getD_none]
  obtain ⟨old, hold⟩ := hfield
  rw [field, field?_exchange_self, hold, Option.map_some, Option.getD_some]

end Entries

/-- Gives a field of an object another value. -/
def exchange (v : Json) (name : Text) (value : Json) : Json :=
  match v with
  | .obj entries => .obj (Entries.exchange name value entries)
  | _ => v

theorem exchange_obj (name : Text) (value : Json) (entries : Entries) :
    (obj entries).exchange name value = .obj (Entries.exchange name value entries) := rfl

/-- A request with other sheets. -/
def withSheets (sheets : List Json) (request : Json) : Json :=
  request.exchange Field.workbook
    ((request.part Field.workbook).exchange Field.sheets (.arr sheets))

/-- A sheet with other data rows. -/
def withRows (rows : List Json) (sheet : Json) : Json := sheet.exchange Field.rows (.arr rows)

/-! ### Reading what was exchanged -/

/-- A workbook that is read has the sheets that it was given. -/
theorem readSheets_exchange {node : Json} {nodes : List Json} (h : readSheets node = .ok nodes)
    {sheets : List Json} (hsheets : sheets ≠ []) :
    readSheets (node.exchange Field.sheets (.arr sheets)) = .ok sheets := by
  obtain ⟨entries, name, rfl, hname, hfield, -⟩ := readSheets_eq_ok_iff.mp h
  -- the name is read as before
  have hsame := Entries.field_exchange_of_ne Field.sheets Field.name (by decide)
    (by decide) (by decide) (.arr sheets) entries
  have hnotnull : Entries.field entries Field.sheets ≠ .null := by
    rw [hfield]
    exact Json.noConfusion
  have hself := Entries.field_exchange_self hnotnull (.arr sheets)
  rw [exchange_obj]
  exact readSheets_eq_ok_iff.mpr ⟨_, name, rfl, hsame.trans hname, hself, hsheets⟩

end Gridwork.Json
