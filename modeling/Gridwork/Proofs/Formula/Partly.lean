import Gridwork.Proofs.Formula.Sanitizing
import Gridwork.Proofs.Json.Reordering

/-!
# Trees that are sanitized or not

Going down a tree and its sanitized copy side by side, one comes to a formula sooner or later. Its
expression has been cleaned, and the nodes under its other keys have been left alone, so from there
on the two trees are the same. `Json.MaybeSanitized v w` is what holds on the way: `w` is `v`, or it
is `v` sanitized. It passes on to what stands one step down under every key but that of an
expression (`MaybeSanitized.layer`), and for a node that is no formula under every key
(`MaybeSanitized.of_not_formula`). Texts, numbers and null are the same in both trees. So every
place of a sanitized tree holds a clean expression or what stood there, sanitized or left alone
(`sanitized_at`).

No field of the vocabulary is spelt like the key of an expression, so all fields are related
(`Entries.MaybeSanitized.field`).
-/

namespace Gridwork.Json

/-! ### One step down -/

/-- A node and the same node, which has been sanitized or left alone. -/
inductive MaybeSanitized : Json → Json → Prop
  | same (v : Json) : MaybeSanitized v v
  | sanitized (v : Json) : MaybeSanitized v v.sanitizeFormulas

/-- The entries of an object, all of which but the expression have been sanitized or left alone. -/
def Entries.MaybeSanitized (a b : Entries) : Prop :=
  List.Forall₂ (fun entry entry' => entry.1 = entry'.1 ∧
    (entry.1 ≠ Formula.expressionKey → Json.MaybeSanitized entry.2 entry'.2)) a b

/-- What two nodes have in common that are related one step down. -/
inductive SanitizedLayer : Json → Json → Prop
  | same (v : Json) : SanitizedLayer v v
  | arr {items items' : List Json} (h : List.Forall₂ MaybeSanitized items items') :
      SanitizedLayer (.arr items) (.arr items')
  | obj {a b : Entries} (h : Entries.MaybeSanitized a b) : SanitizedLayer (.obj a) (.obj b)

theorem Entries.MaybeSanitized.refl (a : Entries) : Entries.MaybeSanitized a a :=
  List.forall₂_same.mpr fun entry _ => ⟨rfl, fun _ => .same entry.2⟩

/-- A formula keeps all of its entries but the expression. -/
theorem Entries.maybeSanitized_withExpression (e : Text) (a : Entries) :
    Entries.MaybeSanitized a (a.withExpression e) := by
  rw [Entries.withExpression, Entries.MaybeSanitized, List.forall₂_map_right_iff]
  refine List.forall₂_same.mpr fun entry _ => ?_
  by_cases hkey : entry.1 = Formula.expressionKey
  · rw [if_pos hkey]
    exact ⟨rfl, fun hne => absurd hkey hne⟩
  · rw [if_neg hkey]
    exact ⟨rfl, fun _ => .same entry.2⟩

/-- **One step down.** -/
theorem MaybeSanitized.layer {v w : Json} (h : MaybeSanitized v w) : SanitizedLayer v w := by
  cases h with
  | same => exact .same v
  | sanitized =>
    cases v with
    | null | bool | int | float | str =>
      rw [sanitizeFormulas]
      · exact .same _
      all_goals intros; contradiction
    | arr items =>
      rw [sanitizeFormulas, sanitizeItems_eq_map]
      refine .arr ?_
      rw [List.forall₂_map_right_iff]
      exact List.forall₂_same.mpr fun item _ => .sanitized item
    | obj entries =>
      cases hexpr : Formula.expression? entries with
      | some e =>
        rw [sanitizeFormulas_obj_of_some hexpr]
        exact .obj (Entries.maybeSanitized_withExpression _ entries)
      | none =>
        rw [sanitizeFormulas_obj_of_none hexpr]
        refine .obj ?_
        rw [Entries.MaybeSanitized, List.forall₂_map_right_iff]
        exact List.forall₂_same.mpr fun entry _ => ⟨rfl, fun _ => .sanitized entry.2⟩

/-- In an object that is no formula the expression is an entry like any other. -/
theorem MaybeSanitized.of_not_formula {a b : Entries} (h : MaybeSanitized (.obj a) (.obj b))
    (hformula : (obj a).isFormula = false) :
    List.Forall₂ (fun e e' => e.1 = e'.1 ∧ MaybeSanitized e.2 e'.2) a b := by
  have hexpr : Formula.expression? a = none := by
    rw [isFormula] at hformula
    exact Option.not_isSome_iff_eq_none.mp (Bool.eq_false_iff.mp hformula)
  -- the other object is the same, or all values in it have been sanitized
  generalize hw : obj b = w at h
  cases h with
  | same =>
    obtain rfl := Json.obj.inj hw
    exact List.forall₂_same.mpr fun entry _ => ⟨rfl, .same entry.2⟩
  | sanitized =>
    rw [sanitizeFormulas_obj_of_none hexpr] at hw
    obtain rfl := Json.obj.inj hw
    rw [List.forall₂_map_right_iff]
    exact List.forall₂_same.mpr fun entry _ => ⟨rfl, .sanitized entry.2⟩

/-! ### What stands at a place -/

/-- **What a sanitized tree holds at a place**: a clean expression, or what stood there, sanitized
or left alone. -/
theorem sanitized_at (t : Json) (place : Location) :
    (∃ outer e, place = .key "expression" :: outer ∧ t.FormulaAt outer e ∧
        t.sanitizeFormulas.at? place = some (.str (Formula.clean e))) ∨
      Option.Rel MaybeSanitized (t.at? place) (t.sanitizeFormulas.at? place) := by
  by_cases hin : t.InsideFormula place
  · obtain ⟨inner, outer, e, hne, rfl, hformula, hout⟩ := hin.outermost
    -- the way into the formula is taken apart at its first step
    obtain ⟨deeper, step, rfl⟩ := List.eq_nil_or_concat inner |>.resolve_left hne
    rw [List.concat_eq_append, List.append_assoc, List.singleton_append]
    by_cases hstep : step = .key "expression"
    · subst hstep
      have hclean := ((formulaAt_sanitizeFormulas_of_not_inside hout _).mpr ⟨e, hformula, rfl⟩).2
      by_cases hdeeper : deeper = []
      · subst hdeeper
        exact Or.inl ⟨outer, e, rfl, hformula, hclean⟩
      · -- below a text there is nothing, clean or not
        refine Or.inr ?_
        rw [at?_append, at?_append, hclean, hformula.2, Option.bind_some, Option.bind_some,
          at?_str hdeeper, at?_str hdeeper]
        exact .none
    · refine Or.inr ?_
      rw [at?_sanitizeFormulas_inner hformula hout hstep]
      cases t.at? (deeper ++ step :: outer) with
      | none => exact .none
      | some v => exact .some (.same v)
  · refine Or.inr ?_
    rw [at?_sanitizeFormulas hin]
    cases t.at? place with
    | none => exact .none
    | some v => exact .some (.sanitized v)

/-- Sanitizing neither adds nor takes away a node. -/
theorem exists_sanitized_at_iff (t : Json) (place : Location) :
    (∃ v, t.sanitizeFormulas.at? place = some v) ↔ ∃ v, t.at? place = some v := by
  rcases t.sanitized_at place with ⟨outer, e, rfl, hformula, hclean⟩ | hrel
  · exact iff_of_true ⟨_, hclean⟩ ⟨_, hformula.2⟩
  · generalize t.at? place = x at hrel
    generalize t.sanitizeFormulas.at? place = y at hrel
    cases hrel with
    | none => exact Iff.rfl
    | some => exact iff_of_true ⟨_, rfl⟩ ⟨_, rfl⟩

/-- A text that is not the expression of a formula is the same in both trees. -/
theorem at?_str_iff_of_rel {x y : Option Json} (h : Option.Rel MaybeSanitized x y) (s : Text) :
    y = some (.str s) ↔ x = some (.str s) := by
  cases h with
  | none => exact Iff.rfl
  | some hvalue =>
    cases hvalue.layer with
    | same => exact Iff.rfl
    | arr _ => exact iff_of_false (by simp) (by simp)
    | obj _ => exact iff_of_false (by simp) (by simp)

/-! ### Fields -/

namespace Entries.MaybeSanitized

variable {a b : Entries}

theorem get? (h : Entries.MaybeSanitized a b) {k : Text} (hk : k ≠ Formula.expressionKey) :
    Option.Rel Json.MaybeSanitized (a.get? k) (b.get? k) := by
  have hrel := rel_get?_of_forall₂
    (fun l v w => l ≠ Formula.expressionKey → Json.MaybeSanitized v w) h k
  generalize a.get? k = x at hrel ⊢
  generalize b.get? k = y at hrel ⊢
  cases hrel with
  | none => exact .none
  | some hvalue => exact .some (hvalue hk)

/-- An absent key counts as null. -/
theorem get?_getD (h : Entries.MaybeSanitized a b) {k : Text} (hk : k ≠ Formula.expressionKey) :
    Json.MaybeSanitized ((a.get? k).getD .null) ((b.get? k).getD .null) := by
  have hget := h.get? hk
  generalize a.get? k = x at hget ⊢
  generalize b.get? k = y at hget ⊢
  cases hget with
  | none => exact .same .null
  | some hvalue => exact hvalue

theorem field? (h : Entries.MaybeSanitized a b) (name : Text)
    (hname : Formula.expressionKey ∉ Field.spellings name) :
    Option.Rel Json.MaybeSanitized (a.field? name) (b.field? name) :=
  rel_field?_of_get? fun _ hk => h.get? fun heq => hname (heq ▸ hk)

/-- A field, an absent one counting as null. -/
theorem field (h : Entries.MaybeSanitized a b) (name : Text)
    (hname : Formula.expressionKey ∉ Field.spellings name) :
    Json.MaybeSanitized (Entries.field a name) (Entries.field b name) :=
  rel_field_of_field? (h.field? name hname) (.same .null)

end Entries.MaybeSanitized

end Gridwork.Json
