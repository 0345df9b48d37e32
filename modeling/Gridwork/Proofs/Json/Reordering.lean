import Gridwork.Proofs.Json.Respelling
import Mathlib.Logic.Relation

/-!
# Requests that differ in the order of keys

Two relations say that trees are the same but for the order in which objects have their entries:

* `Json.ReorderedRequest` — in every object that building reads by field names the entries may stand
  in any order: in the request itself, the workbook, its sheets, their headers, the styles, their
  alignments and colours. In a data row only the style may stand elsewhere, since the other entries
  are columns and columns have an order;
* `Json.Shuffled` — one object after the other, anywhere in the tree, gets its entries in any other
  order.

Either way the keys of such an object are distinct, as those of an object that was read are, and
then the same is found under every key (`Entries.get?_perm`).
-/

namespace Gridwork.Json

/-! ### Lookups -/

namespace Entries

variable {a b : Entries}

theorem Distinct.perm (h : a.Distinct) (hperm : a.Perm b) : b.Distinct :=
  (hperm.map Prod.fst).nodup_iff.mp h

/-- Where keys are distinct, what is found under a key does not depend on the order. -/
theorem get?_perm (h : a.Distinct) (hperm : a.Perm b) (k : Text) : a.get? k = b.get? k := by
  refine Option.ext fun v => ?_
  rw [get?_eq_some_iff h, get?_eq_some_iff (h.perm hperm), hperm.mem_iff]

/-- What is found under a key of one kind is found among the entries of that kind. -/
theorem get?_filter {kind : Text → Bool} {k : Text} (hk : kind k = true) (a : Entries) :
    get? (a.filter fun entry => kind entry.1) k = a.get? k := by
  unfold get?
  induction a with
  | nil => rfl
  | cons entry rest ih =>
    obtain ⟨l, v⟩ := entry
    rw [List.lookup_cons]
    -- the search passes over the entry in both lists or only in the longer one
    by_cases hl : kind l = true
    · rw [List.filter_cons_of_pos (by exact hl), List.lookup_cons, ih]
    · -- an entry of another kind has another key
      have hne : k ≠ l := fun heq => hl (heq ▸ hk)
      rw [List.filter_cons_of_neg (by exact hl), beq_eq_false_iff_ne.mpr hne, ih]

/-- Objects with the same keys in the same order have related values under each of them. -/
theorem rel_get?_of_forall₂ (R : Text → Json → Json → Prop)
    (h : List.Forall₂ (fun e e' => e.1 = e'.1 ∧ R e.1 e.2 e'.2) a b) (k : Text) :
    Option.Rel (R k) (a.get? k) (b.get? k) := by
  induction h with
  | nil => exact .none
  | @cons e e' rest rest' hentry _ ih =>
    obtain ⟨l, v⟩ := e
    obtain ⟨l', w⟩ := e'
    obtain ⟨rfl, hvalue⟩ := hentry
    unfold get?
    rw [List.lookup_cons, List.lookup_cons]
    by_cases hl : k = l
    · subst hl
      rw [beq_self_eq_true]
      exact .some hvalue
    · rw [beq_eq_false_iff_ne.mpr hl]
      exact ih

/-- A field is found in both objects under the same spelling, or in none. -/
theorem rel_field?_of_get? {R : Json → Json → Prop} {name : Text}
    (h : ∀ k ∈ Field.spellings name, Option.Rel R (a.get? k) (b.get? k)) :
    Option.Rel R (a.field? name) (b.field? name) := by
  unfold field?
  -- along the spellings, up to the first that is a key of both objects
  generalize Field.spellings name = spellings at h ⊢
  induction spellings with
  | nil => exact .none
  | cons k spellings ih =>
    have hk := h k List.mem_cons_self
    rw [List.findSome?_cons, List.findSome?_cons]
    generalize a.get? k = x at hk
    generalize b.get? k = y at hk
    cases hk with
    | some hvalue => exact .some hvalue
    | none => exact ih fun l hl => h l (List.mem_cons_of_mem _ hl)

/-- The values of a field are related, an absent one counting as null. -/
theorem rel_field_of_field? {R : Json → Json → Prop} {name : Text}
    (h : Option.Rel R (a.field? name) (b.field? name)) (hnull : R null null) :
    R (field a name) (field b name) := by
  unfold field
  generalize a.field? name = x at h
  generalize b.field? name = y at h
  cases h with
  | none => exact hnull
  | some hvalue => exact hvalue

/-! ### Reordered requests -/

/-- Two objects with the same keys, in any order, whose values are related as `part` says of what
the key stands for. -/
structure Reordered (part : Text → Json → Json → Prop) (a b : Entries) : Prop where
  /-- No key stands twice. -/
  distinct : a.Distinct
  agree : ∃ c : Entries, a.Perm c ∧
    List.Forall₂ (fun e e' => e.1 = e'.1 ∧ part (Field.canonical e.1) e.2 e'.2) c b

variable {part : Text → Json → Json → Prop}

theorem Reordered.get? (h : Reordered part a b) (k : Text) :
    Option.Rel (part (Field.canonical k)) (a.get? k) (b.get? k) := by
  -- the first object in the order of the second has its entries side by side with them
  obtain ⟨c, hperm, hagree⟩ := h.agree
  rw [get?_perm h.distinct hperm]
  exact rel_get?_of_forall₂ (fun l => part (Field.canonical l)) hagree k

theorem Reordered.field? (h : Reordered part a b) (name : Text)
    (hname : Field.canonical name = name) :
    Option.Rel (part name) (a.field? name) (b.field? name) := by
  refine rel_field?_of_get? fun k hk => ?_
  have hget := h.get? k
  rwa [(Field.mem_spellings_iff hname).mp hk] at hget

/-- A field of the vocabulary, looked up by its canonical name. An absent one counts as null. -/
theorem Reordered.field_of (h : Reordered part a b) (name : Text)
    (hname : Field.canonical name = name) {R : Json → Json → Prop} (hpart : part name = R)
    (hnull : R null null) : R (Entries.field a name) (Entries.field b name) := by
  subst hpart
  exact rel_field_of_field? (h.field? name hname) hnull

/-- Where the values must be the same, the objects give the same. -/
theorem Reordered.get?_eq (h : Reordered part a b) {k : Text}
    (hpart : part (Field.canonical k) = Eq) : a.get? k = b.get? k := by
  have hget := h.get? k
  rw [hpart] at hget
  exact eq_of_rel_eq hget

/-- Backwards is one of the orders. -/
theorem Reordered.of_reverse (hdistinct : (a.map Prod.fst).Nodup) (h : List.Forall₂
    (fun e e' => e.1 = e'.1 ∧ part (Field.canonical e.1) e.2 e'.2) a.reverse b) :
    Reordered part a b :=
  ⟨hdistinct, a.reverse, a.reverse_perm.symm, h⟩

/-- The other object has its keys distinct, too. -/
theorem Reordered.distinct_right (h : Reordered part a b) : b.Distinct := by
  obtain ⟨c, hperm, hagree⟩ := h.agree
  have hkeys : c.map Prod.fst = b.map Prod.fst := by
    rw [← List.forall₂_eq_eq_eq, List.forall₂_map_left_iff, List.forall₂_map_right_iff]
    exact hagree.imp fun _ _ hentry => hentry.1
  have hdistinct := h.distinct.perm hperm
  rwa [Distinct, hkeys] at hdistinct

end Entries

/-- Two values are the same, or two objects with the same keys in any order. -/
inductive Reordered (part : Text → Json → Json → Prop) : Json → Json → Prop
  | same (v : Json) : Reordered part v v
  | obj {a b : Entries} (h : Entries.Reordered part a b) : Reordered part (.obj a) (.obj b)

/-- An alignment or a colour. -/
def ReorderedFlat : Json → Json → Prop := Reordered fun _ => Eq

/-- What the values of a style have in common. -/
def reorderedStylePart : Text → Json → Json → Prop :=
  underField Field.alignment ReorderedFlat
    (underField Field.textColor ReorderedFlat
      (underField Field.fillColor ReorderedFlat fun _ => Eq))

/-- A style, with its alignment and its colours. -/
def ReorderedStyle : Json → Json → Prop := Reordered reorderedStylePart

/-- A header, with its style. -/
def ReorderedHeader : Json → Json → Prop :=
  Reordered (underField Field.style ReorderedStyle fun _ => Eq)

/-- Two data rows with the same columns in the same order. The style may stand anywhere among
them. -/
structure Entries.ReorderedRow (a b : Entries) : Prop where
  columns : (a.filter fun entry => !Field.isStyle entry.1)
    = b.filter fun entry => !Field.isStyle entry.1
  style : Entries.Reordered (fun _ => ReorderedStyle)
    (a.filter fun entry => Field.isStyle entry.1) (b.filter fun entry => Field.isStyle entry.1)

/-- A data row. -/
inductive ReorderedRow : Json → Json → Prop
  | same (v : Json) : ReorderedRow v v
  | obj {a b : Entries} (h : Entries.ReorderedRow a b) : ReorderedRow (.obj a) (.obj b)

/-- A sheet, with its header and its data rows, whose own order is data. -/
def ReorderedSheet : Json → Json → Prop :=
  Reordered (underField Field.header ReorderedHeader
    (underField Field.rows (EachRespelled ReorderedRow) fun _ => Eq))

/-- A workbook, with its sheets, whose own order is data. -/
def ReorderedWorkbook : Json → Json → Prop :=
  Reordered (underField Field.sheets (EachRespelled ReorderedSheet) fun _ => Eq)

/-- **Reordered requests.** -/
def ReorderedRequest : Json → Json → Prop :=
  Reordered (underField Field.workbook ReorderedWorkbook fun _ => Eq)

/-! ### Shuffled trees -/

/-- One object of a tree gets its entries in another order. -/
inductive ShuffleStep : Json → Json → Prop
  | here {a b : Entries} (h : a.Distinct) (hperm : a.Perm b) : ShuffleStep (.obj a) (.obj b)
  | item (before : List Json) {v w : Json} (after : List Json) (h : ShuffleStep v w) :
      ShuffleStep (.arr (before ++ v :: after)) (.arr (before ++ w :: after))
  | entry (before : Entries) (k : Text) {v w : Json} (after : Entries) (h : ShuffleStep v w) :
      ShuffleStep (.obj (before ++ (k, v) :: after)) (.obj (before ++ (k, w) :: after))

/-- **Shuffled trees**: any of the objects, at any depth, have their entries in any other order. -/
def Shuffled : Json → Json → Prop := Relation.ReflTransGen ShuffleStep

/-- At most one object gets its entries in another order. -/
def ShuffledOnce : Json → Json → Prop := Relation.ReflGen ShuffleStep

theorem ShuffledOnce.refl (v : Json) : ShuffledOnce v v := Relation.ReflGen.refl

/-- Two trees that differ in the order of one object are two objects or two arrays. -/
inductive ShuffledKinds : Json → Json → Prop
  | obj {a b : Entries} (h : ∀ k, Option.Rel ShuffledOnce (a.get? k) (b.get? k)) :
      ShuffledKinds (.obj a) (.obj b)
  | arr {as bs : List Json} (h : List.Forall₂ ShuffledOnce as bs) :
      ShuffledKinds (.arr as) (.arr bs)

theorem ShuffleStep.kinds {v w : Json} (h : ShuffleStep v w) : ShuffledKinds v w := by
  cases h with
  -- the object itself: its values are the same, in another order
  | @here a b h hperm =>
    refine .obj fun k => ?_
    rw [Entries.get?_perm h hperm]
    cases b.get? k with
    | none => exact .none
    | some u => exact .some (.refl u)
  | item before after h => exact .arr (forall₂_append_cons .refl (.single h) before after)
  | entry before k after h =>
    exact .obj (Entries.rel_get?_of_forall₂ (fun _ => ShuffledOnce)
      (forall₂_append_cons (fun e => ⟨rfl, .refl e.2⟩) ⟨rfl, .single h⟩ before after))

end Gridwork.Json
