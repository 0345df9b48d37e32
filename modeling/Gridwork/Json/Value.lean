import Gridwork.Number.Binary64
import Gridwork.Text.Basic

/-!
# JSON trees

`Json` is the tree that a JSON text stands for. Whole numbers of any size and doubles are kept
apart, and an object keeps its entries in the order in which they were written, since that order is
the column order of a data row. The reader (`Gridwork.Json.Reader`) gives every object distinct
keys.
-/

namespace Gridwork

/-- A JSON tree. -/
inductive Json where
  | null
  | bool (b : Bool)
  | int (n : Int)
  | float (x : Binary64)
  | str (s : Text)
  | arr (items : List Json)
  | obj (entries : List (Text × Json))
  deriving Inhabited, Repr

/-- The entries of an object. -/
abbrev Json.Entries := List (Text × Json)

namespace Json

/-- The value of a key. -/
def Entries.get? (entries : Entries) (key : Text) : Option Json := entries.lookup key

/-- Sets the value of a key: a key that is there keeps its place, a new one comes last. -/
def Entries.set (key : Text) (value : Json) : Entries → Entries
  | [] => [(key, value)]
  | (k, v) :: rest => if k = key then (k, value) :: rest else (k, v) :: Entries.set key value rest

@[simp] theorem Entries.get?_set (key k : Text) (value : Json) (entries : Entries) :
    (Entries.set key value entries).get? k = if k = key then some value else entries.get? k := by
  induction entries with
  | nil => by_cases h : k = key <;> simp [set, get?, h]
  | cons entry rest ih =>
    obtain ⟨l, v⟩ := entry
    simp only [get?] at ih ⊢
    unfold set
    by_cases h : l = key <;> by_cases hk : k = l <;> by_cases hkk : k = key <;>
      simp_all [List.lookup_cons, beq_eq_false_iff_ne.mpr]

/-- Objects whose keys are pairwise distinct. -/
def Entries.Distinct (entries : Entries) : Prop := (entries.map Prod.fst).Nodup

/-! ### Equality -/

mutual

/-- Whether two trees are the same, doubles being compared by their patterns. -/
def same : Json → Json → Bool
  | .null, .null => true
  | .bool a, .bool b => a == b
  | .int a, .int b => a == b
  | .float a, .float b => a == b
  | .str a, .str b => a == b
  | .arr a, .arr b => sameItems a b
  | .obj a, .obj b => sameEntries a b
  | _, _ => false

/-- Whether two lists hold the same trees. -/
def sameItems : List Json → List Json → Bool
  | [], [] => true
  | a :: as, b :: bs => same a b && sameItems as bs
  | _, _ => false

/-- Whether two lists hold the same entries. -/
def sameEntries : List (Text × Json) → List (Text × Json) → Bool
  | [], [] => true
  | (k, a) :: as, (l, b) :: bs => k == l && same a b && sameEntries as bs
  | _, _ => false

end

mutual

theorem same_iff : (a b : Json) → (same a b = true ↔ a = b)
  | .null, b => by cases b <;> simp [same]
  | .bool _, b => by cases b <;> simp [same]
  | .int _, b => by cases b <;> simp [same]
  | .float _, b => by cases b <;> simp [same]
  | .str _, b => by cases b <;> simp [same]
  | .arr as, b => by cases b <;> simp [same, sameItems_iff as]
  | .obj as, b => by cases b <;> simp [same, sameEntries_iff as]

theorem sameItems_iff : (as bs : List Json) → (sameItems as bs = true ↔ as = bs)
  | [], bs => by cases bs <;> simp [sameItems]
  | a :: as, bs => by cases bs <;> simp [sameItems, same_iff a, sameItems_iff as]

theorem sameEntries_iff :
    (as bs : List (Text × Json)) → (sameEntries as bs = true ↔ as = bs)
  | [], bs => by cases bs <;> simp [sameEntries]
  | (k, a) :: as, bs => by
    cases bs <;> simp [sameEntries, same_iff a, sameEntries_iff as, Prod.ext_iff, and_assoc]

end

instance : DecidableEq Json := fun a b => decidable_of_iff (same a b = true) (same_iff a b)

/-! ### Texts -/

mutual

/-- Whether all texts of a tree can be encoded, the keys of its objects among them. -/
def isEncodable : Json → Bool
  | .str s => s.isEncodable
  | .arr items => itemsEncodable items
  | .obj entries => entriesEncodable entries
  | _ => true

/-- Whether all texts of the members of an array can be encoded. -/
def itemsEncodable : List Json → Bool
  | [] => true
  | v :: rest => isEncodable v && itemsEncodable rest

/-- Whether all texts of the entries of an object can be encoded. -/
def entriesEncodable : List (Text × Json) → Bool
  | [] => true
  | (k, v) :: rest => k.isEncodable && isEncodable v && entriesEncodable rest

end

theorem itemsEncodable_iff {items : List Json} :
    itemsEncodable items = true ↔ ∀ v ∈ items, v.isEncodable = true := by
  induction items with
  | nil => simp [itemsEncodable]
  | cons v rest ih => simp [itemsEncodable, ih]

theorem entriesEncodable_iff {entries : Entries} :
    entriesEncodable entries = true ↔
      ∀ entry ∈ entries, entry.1.isEncodable = true ∧ entry.2.isEncodable = true := by
  induction entries with
  | nil => simp [entriesEncodable]
  | cons entry rest ih => simp [entriesEncodable, ih]

@[simp] theorem isEncodable_str (s : Text) : (str s).isEncodable = s.isEncodable := by
  rw [isEncodable]

@[simp] theorem isEncodable_arr (items : List Json) :
    (arr items).isEncodable = itemsEncodable items := by rw [isEncodable]

@[simp] theorem isEncodable_obj (entries : Entries) :
    (obj entries).isEncodable = entriesEncodable entries := by rw [isEncodable]

end Json

end Gridwork
