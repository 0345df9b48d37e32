import Gridwork.Proofs.Formula.Partly

/-!
# What sanitizing keeps

Sanitizing changes expressions and nothing else. At every place a sanitized tree has the *outline*
of the given one (`Json.outline`): the same kind of node, the same keys in the same order, as many
members, the same value of a leaf. The only exceptions are the expressions of formulas that lie
inside no other one. There the clean expression stands, which is what is left of the given one when
some of its characters are deleted (`Formula.clean_sublist`). An object is a formula afterwards
exactly if it was one (`Json.exists_formulaAt_sanitizeFormulas_iff`).

`Json.sanitizeFormulas_frame` adds that sanitizing twice is sanitizing once. The second time the
same objects are recognised as formulas on the way down, as no entry becomes a text that was none
(`Json.expression?_map_sanitizeFormulas`), and their expressions are clean already
(`Formula.clean_clean_eq`).
-/

namespace Gridwork

/-! ### Clean expressions -/

namespace Formula

/-- Cleaning deletes characters. -/
theorem clean_sublist (e : Text) : (clean e).toList.Sublist e.toList := by
  unfold clean cleanChars
  dsimp only
  split
  · next rest heq =>
    rw [heq]
    exact List.filter_sublist.trans (List.sublist_cons_self _ rest)
  · exact List.filter_sublist

/-- Characters that are all allowed are left alone. -/
theorem cleanChars_of_allowed {cs : List CodePoint} (h : ∀ c ∈ cs, c.is isAllowedChar = true) :
    cleanChars cs = cs := by
  unfold cleanChars
  split
  · -- an equals sign is not allowed, not even in front
    exact absurd (h _ List.mem_cons_self) (by decide)
  · exact List.filter_eq_self.mpr h

/-- A clean expression is not cleaned any further. -/
theorem clean_clean_eq (e : Text) : clean (clean e) = clean e := by
  have hallowed : ∀ c ∈ cleanChars e.toList, c.is isAllowedChar = true :=
    fun c hc => (List.mem_filter.mp hc).2
  exact Text.toList_inj.mp (cleanChars_of_allowed hallowed)

end Formula

namespace Json

/-! ### Sanitizing twice -/

/-- Of two expressions that are exchanged one after the other the second stays. -/
theorem Entries.withExpression_withExpression (e e' : Text) (entries : Entries) :
    (entries.withExpression e).withExpression e' = entries.withExpression e' := by
  unfold Entries.withExpression
  rw [List.map_map]
  refine List.map_congr_left fun entry _ => ?_
  by_cases hkey : entry.1 = Formula.expressionKey
  · simp only [Function.comp_apply, if_pos hkey]
  · simp only [Function.comp_apply, if_neg hkey]

/-- A formula with a new expression is a formula. -/
theorem expression?_withExpression {entries : Entries} {e : Text}
    (h : Formula.expression? entries = some e) (e' : Text) :
    Formula.expression? (entries.withExpression e') = some e' := by
  obtain ⟨htype, hexpr⟩ := (expression?_eq_some_iff entries e).mp h
  rw [expression?_eq_some_iff, Entries.get?_withExpression, Entries.get?_withExpression, htype,
    hexpr]
  exact ⟨rfl, rfl⟩

/-- **Sanitizing twice is sanitizing once.** -/
theorem sanitizeFormulas_sanitizeFormulas (t : Json) :
    t.sanitizeFormulas.sanitizeFormulas = t.sanitizeFormulas := by
  induction t using induction_children with
  | node v ih =>
    cases v with
    | null | bool | int | float | str => rfl
    | arr items =>
      rw [sanitizeFormulas, sanitizeItems_eq_map, sanitizeFormulas, sanitizeItems_eq_map,
        List.map_map]
      refine congrArg arr (List.map_congr_left fun item hitem => ?_)
      obtain ⟨i, hchild⟩ := exists_mem_children_of_item hitem
      exact ih _ hchild
    | obj entries =>
      cases hexpr : Formula.expression? entries with
      | some e =>
        rw [sanitizeFormulas_obj_of_some hexpr,
          sanitizeFormulas_obj_of_some (expression?_withExpression hexpr _),
          Formula.clean_clean_eq, Entries.withExpression_withExpression]
      | none =>
        -- the object is no formula the second time either
        have hexpr' := (expression?_map_sanitizeFormulas entries).trans hexpr
        rw [sanitizeFormulas_obj_of_none hexpr, sanitizeFormulas_obj_of_none hexpr', List.map_map]
        refine congrArg obj (List.map_congr_left fun entry hentry => ?_)
        exact congrArg (Prod.mk entry.1) (ih _ (mem_children_of_entry hentry))

/-! ### Outlines -/

/-- A node without what lies below it. -/
inductive Outline where
  /-- A node that nothing lies below. -/
  | leaf (v : Json)
  /-- An array of so many members. -/
  | arr (length : Nat)
  /-- An object with these keys in this order. -/
  | obj (keys : List Text)
  deriving DecidableEq, Repr

/-- The outline of a node. -/
def outline : Json → Outline
  | .arr items => .arr items.length
  | .obj entries => .obj (entries.map Prod.fst)
  | v => .leaf v

theorem MaybeSanitized.outline_eq {v w : Json} (h : MaybeSanitized v w) :
    w.outline = v.outline := by
  cases h.layer with
  | same => rfl
  | arr hitems => exact congrArg Outline.arr hitems.length_eq.symm
  | obj hentries =>
    refine congrArg Outline.obj (Eq.symm ?_)
    rw [← List.forall₂_eq_eq_eq, List.forall₂_map_left_iff, List.forall₂_map_right_iff]
    exact hentries.imp fun entry entry' hentry => hentry.1

/-- At a place stands the expression of a formula that lies inside no other one. -/
def OuterExpressionAt (t : Json) (place : Location) : Prop :=
  ∃ outer e, place = .key "expression" :: outer ∧ t.FormulaAt outer e ∧ ¬ t.InsideFormula outer

/-- A sanitized tree has the outline of the given one wherever no expression was cleaned. -/
theorem outline_sanitizeFormulas {t : Json} {place : Location} (h : ¬ t.OuterExpressionAt place) :
    (t.sanitizeFormulas.at? place).map outline = (t.at? place).map outline := by
  rcases t.sanitized_at place with ⟨outer, e, rfl, hformula, -⟩ | hrel
  · -- the formula lies inside another one, so its expression is the same
    have hin : t.InsideFormula outer := by
      by_contra hout
      exact h ⟨outer, e, rfl, hformula, hout⟩
    have hkept := (formulaAt_sanitizeFormulas_of_inside hin e).mpr hformula
    rw [hkept.2, hformula.2]
  · generalize t.at? place = x at hrel
    generalize t.sanitizeFormulas.at? place = y at hrel
    cases hrel with
    | none => rfl
    | some hvalue => exact congrArg some hvalue.outline_eq

/-- Formulas are neither made nor lost. -/
theorem exists_formulaAt_sanitizeFormulas_iff (t : Json) (place : Location) :
    (∃ e, t.sanitizeFormulas.FormulaAt place e) ↔ ∃ e, t.FormulaAt place e := by
  by_cases hin : t.InsideFormula place
  · exact exists_congr fun e => formulaAt_sanitizeFormulas_of_inside hin e
  · constructor
    · rintro ⟨e, hformula⟩
      obtain ⟨written, hwritten, -⟩ := (formulaAt_sanitizeFormulas_of_not_inside hin e).mp hformula
      exact ⟨written, hwritten⟩
    · rintro ⟨written, hwritten⟩
      exact ⟨_, (formulaAt_sanitizeFormulas_of_not_inside hin _).mpr ⟨written, hwritten, rfl⟩⟩

/-- What is kept of a tree in which only expressions are cleaned, those of the formulas inside no
other one. -/
structure OnlyCleaned (t cleaned : Json) : Prop where
  /-- Everywhere else the outline is the same. -/
  kept : ∀ place, ¬ t.OuterExpressionAt place →
    (cleaned.at? place).map outline = (t.at? place).map outline
  /-- The expression of a formula inside no other one is clean, and only characters were deleted. -/
  expression : ∀ place e, t.FormulaAt place e → ¬ t.InsideFormula place →
    cleaned.at? (.key "expression" :: place) = some (.str (Formula.clean e)) ∧
      (Formula.clean e).toList.Sublist e.toList
  /-- The formulas are at the same places. -/
  formulas : ∀ place, (∃ e, cleaned.FormulaAt place e) ↔ ∃ e, t.FormulaAt place e

/-- **The frame of sanitizing.** Nothing changes but the expressions of formulas inside no other
one, and nothing changes a second time. -/
theorem sanitizeFormulas_frame (t : Json) :
    t.OnlyCleaned t.sanitizeFormulas ∧
      t.sanitizeFormulas.sanitizeFormulas = t.sanitizeFormulas := by
  refine ⟨⟨fun place => outline_sanitizeFormulas, fun place e hformula hout => ?_,
    exists_formulaAt_sanitizeFormulas_iff t⟩, sanitizeFormulas_sanitizeFormulas t⟩
  have hclean := (formulaAt_sanitizeFormulas_of_not_inside hout _).mpr ⟨e, hformula, rfl⟩
  exact ⟨hclean.2, Formula.clean_sublist e⟩

end Json

end Gridwork
