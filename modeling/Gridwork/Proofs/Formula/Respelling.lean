import Gridwork.Proofs.Formula.Sanitizing
import Gridwork.Proofs.Json.Respelling

/-!
# Sanitizing does not depend on spelling

The keys that make a formula of an object, `type` and `expression`, have one spelling each. So the
formulas of two respelled requests are at the same places, and cleaning them leaves the requests
respelled: `Json.RespelledRequest.sanitizeFormulas`.
-/

namespace Gridwork.Json

/-! ### Objects -/

/-- The keys of a formula have one spelling each, and must have the same values. -/
structure FormulaKeys (stands : Text → Text) (part : Text → Json → Json → Prop) : Prop where
  type : ∀ k, stands k = "type" ↔ k = "type"
  expression : ∀ k, stands k = "expression" ↔ k = "expression"
  part_type : part "type" = Eq
  part_expression : part "expression" = Eq

section Objects

variable {stands : Text → Text} {part : Text → Json → Json → Prop} {a b : Entries}

/-- Both objects are the same formula, or neither is one. -/
theorem expression?_of_respelled (hkeys : FormulaKeys stands part)
    (h : Entries.Respelled stands part a b) : Formula.expression? a = Formula.expression? b := by
  unfold Formula.expression? Formula.expressionKey
  rw [h.get?_eq hkeys.type hkeys.part_type, h.get?_eq hkeys.expression hkeys.part_expression]

/-- Entries that keep their keys stay respelled if their values do. -/
theorem Entries.Respelled.map (h : Entries.Respelled stands part a b)
    {f g : Text × Json → Text × Json} (hf : ∀ e, (f e).1 = e.1) (hg : ∀ e, (g e).1 = e.1)
    (hpart : ∀ e e', stands e.1 = stands e'.1 → part (stands e.1) e.2 e'.2 →
      part (stands e.1) (f e).2 (g e').2) : Entries.Respelled stands part (a.map f) (b.map g) := by
  refine ⟨?_, ?_⟩
  · have hstands : ((a.map f).map fun entry => stands entry.1)
        = a.map fun entry => stands entry.1 := by
      rw [List.map_map]
      exact List.map_congr_left fun e _ => congrArg stands (hf e)
    rw [hstands]
    exact h.distinct
  · rw [List.forall₂_map_left_iff, List.forall₂_map_right_iff]
    refine h.agree.imp fun e e' hentry => ?_
    rw [hf, hg]
    exact ⟨hentry.1, hpart e e' hentry.1 hentry.2⟩

/-- Respelled objects stay so if their values do. -/
theorem Respelled.sanitizeFormulas {v w : Json} (hkeys : FormulaKeys stands part)
    (hpart : ∀ k v w, part k v w → part k v.sanitizeFormulas w.sanitizeFormulas)
    (h : Respelled stands part v w) :
    Respelled stands part v.sanitizeFormulas w.sanitizeFormulas := by
  cases h with
  | same => exact .same _
  | @obj a b h =>
    have hformula := expression?_of_respelled hkeys h
    -- so both objects are formulas, whose expression is exchanged, or the walk goes on in both
    cases hexpr : Formula.expression? a with
    | none =>
      rw [hexpr] at hformula
      rw [sanitizeFormulas_obj_of_none hexpr, sanitizeFormulas_obj_of_none hformula.symm]
      exact .obj (h.map (fun _ => rfl) (fun _ => rfl) fun e e' _ hvalue => hpart _ _ _ hvalue)
    | some e =>
      rw [hexpr] at hformula
      rw [sanitizeFormulas_obj_of_some hexpr, sanitizeFormulas_obj_of_some hformula.symm]
      have hkept : ∀ entry : Text × Json, (if entry.1 = Formula.expressionKey
          then (entry.1, .str (Formula.clean e)) else entry).1 = entry.1 := by
        intro entry
        split <;> rfl
      refine .obj (h.map hkept hkept fun entry entry' hstands hvalue => ?_)
      -- the one entry whose value changes is the expression, on both sides
      by_cases hkey : entry.1 = Formula.expressionKey
      · have hstands' := (hkeys.expression entry.1).mpr hkey
        have hkey' : entry'.1 = Formula.expressionKey :=
          (hkeys.expression entry'.1).mp (hstands.symm.trans hstands')
        rw [if_pos hkey, if_pos hkey', hstands', hkeys.part_expression]
      · have hkey' : ¬ entry'.1 = Formula.expressionKey := fun heq =>
          hkey ((hkeys.expression entry.1).mp
            (hstands.trans ((hkeys.expression entry'.1).mpr heq)))
        rw [if_neg hkey, if_neg hkey']
        exact hvalue

theorem EachRespelled.sanitizeFormulas {v w : Json} {member : Json → Json → Prop}
    (hmember : ∀ v w, member v w → member v.sanitizeFormulas w.sanitizeFormulas)
    (h : EachRespelled member v w) :
    EachRespelled member v.sanitizeFormulas w.sanitizeFormulas := by
  cases h with
  | same => exact .same _
  | arr h =>
    rw [Json.sanitizeFormulas, Json.sanitizeFormulas, sanitizeItems_eq_map, sanitizeItems_eq_map]
    refine .arr ?_
    rw [List.forall₂_map_left_iff, List.forall₂_map_right_iff]
    exact h.imp hmember

end Objects

/-! ### The parts of a request -/

/-- The keys of a formula are no fields of the vocabulary. -/
theorem formulaKeys_canonical {part : Text → Json → Json → Prop} (htype : part "type" = Eq)
    (hexpr : part "expression" = Eq) : FormulaKeys Field.canonical part :=
  ⟨Field.canonical_eq_iff (by decide) (by decide), Field.canonical_eq_iff (by decide) (by decide),
    htype, hexpr⟩

theorem rowKey_eq_iff {name : Text} (h : Field.isStyle name = false) (k : Text) :
    Field.rowKey k = name ↔ k = name := by
  unfold Field.rowKey
  split
  · next hk =>
    refine iff_of_false ?_ ?_
    · rintro rfl
      revert h
      decide
    · rintro rfl
      rw [hk] at h
      cases h
  · exact Iff.rfl

variable {v w : Json}

/-- Equal values are sanitized alike. -/
theorem eq_sanitizeFormulas (_ : Text) (v w : Json) (h : v = w) :
    v.sanitizeFormulas = w.sanitizeFormulas := congrArg Json.sanitizeFormulas h

theorem RespelledStyle.sanitizeFormulas (h : RespelledStyle v w) :
    RespelledStyle v.sanitizeFormulas w.sanitizeFormulas :=
  Respelled.sanitizeFormulas (formulaKeys_canonical rfl rfl) eq_sanitizeFormulas h

theorem stylePart_sanitizeFormulas (k : Text) (v w : Json) (h : stylePart k v w) :
    stylePart k v.sanitizeFormulas w.sanitizeFormulas :=
  underField_map (fun _ _ => RespelledStyle.sanitizeFormulas) eq_sanitizeFormulas k v w h

theorem RespelledHeader.sanitizeFormulas (h : RespelledHeader v w) :
    RespelledHeader v.sanitizeFormulas w.sanitizeFormulas :=
  Respelled.sanitizeFormulas
    (formulaKeys_canonical (underField_of_ne (by decide)) (underField_of_ne (by decide)))
    stylePart_sanitizeFormulas h

theorem RespelledRow.sanitizeFormulas (h : RespelledRow v w) :
    RespelledRow v.sanitizeFormulas w.sanitizeFormulas :=
  Respelled.sanitizeFormulas ⟨rowKey_eq_iff (by decide), rowKey_eq_iff (by decide),
    underField_of_ne (by decide), underField_of_ne (by decide)⟩ stylePart_sanitizeFormulas h

theorem RespelledSheet.sanitizeFormulas (h : RespelledSheet v w) :
    RespelledSheet v.sanitizeFormulas w.sanitizeFormulas := by
  refine Respelled.sanitizeFormulas (formulaKeys_canonical ?_ ?_) ?_ h
  · exact (underField_of_ne (by decide)).trans (underField_of_ne (by decide))
  · exact (underField_of_ne (by decide)).trans (underField_of_ne (by decide))
  · refine underField_map (fun _ _ => RespelledHeader.sanitizeFormulas) ?_
    refine underField_map (fun _ _ => ?_) eq_sanitizeFormulas
    exact EachRespelled.sanitizeFormulas fun _ _ => RespelledRow.sanitizeFormulas

theorem RespelledWorkbook.sanitizeFormulas (h : RespelledWorkbook v w) :
    RespelledWorkbook v.sanitizeFormulas w.sanitizeFormulas := by
  refine Respelled.sanitizeFormulas
    (formulaKeys_canonical (underField_of_ne (by decide)) (underField_of_ne (by decide))) ?_ h
  refine underField_map (fun _ _ => ?_) eq_sanitizeFormulas
  exact EachRespelled.sanitizeFormulas fun _ _ => RespelledSheet.sanitizeFormulas

/-- **Cleaning the formulas of respelled requests leaves them respelled.** -/
theorem RespelledRequest.sanitizeFormulas (h : RespelledRequest v w) :
    RespelledRequest v.sanitizeFormulas w.sanitizeFormulas := by
  refine Respelled.sanitizeFormulas ⟨fun _ => Iff.rfl, fun _ => Iff.rfl,
    underField_of_ne (by decide), underField_of_ne (by decide)⟩ ?_ h
  exact underField_map (fun _ _ => RespelledWorkbook.sanitizeFormulas) eq_sanitizeFormulas

end Gridwork.Json
