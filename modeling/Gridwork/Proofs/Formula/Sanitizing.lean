import Gridwork.Formula
import Gridwork.Proofs.Json.Node

/-!
# Which formulas are clean after sanitizing

Cleaning stops at the first formula node on the way down: what lies *inside* a formula node, at any
depth, is passed over. So the formulas of a sanitized tree are of two kinds:

* a formula inside no other one — its expression has been cleaned
  (`formulaAt_sanitizeFormulas_of_not_inside`);
* a formula inside another one — it is there as it was written
  (`formulaAt_sanitizeFormulas_of_inside`).

`sanitizeFormulas_reach` puts the two together: the sanitized tree is clean throughout exactly if
the inner formulas of the given tree were clean already. `inner_formula_kept` is a tree in which one
was not.

The notions are stated through locations only (`Json.at?`), apart from the functions that find and
clean formulas.
-/

namespace Gridwork

/-! ### Clean expressions -/

namespace Formula

/-- A character of a clean expression: a letter or digit of ASCII, or one of the marks that formulas
need. -/
def CleanChar (c : Char) : Prop :=
  ('A' ≤ c ∧ c ≤ 'Z') ∨ ('a' ≤ c ∧ c ≤ 'z') ∨ ('0' ≤ c ∧ c ≤ '9') ∨ c ∈ "()+-*/^%,. ".toList

instance (c : Char) : Decidable (CleanChar c) := by unfold CleanChar; infer_instance

/-- A code point of a clean expression is such a character. -/
def CleanPoint : CodePoint → Prop
  | .char c => CleanChar c
  | _ => False

instance : DecidablePred CleanPoint
  | .char c => inferInstanceAs (Decidable (CleanChar c))
  | .high _ => inferInstanceAs (Decidable False)
  | .low _ => inferInstanceAs (Decidable False)

/-- An expression is clean if all its code points are. -/
def Clean (e : Text) : Prop := ∀ c ∈ e.toList, CleanPoint c

instance (e : Text) : Decidable (Clean e) := List.decidableBAll _ _

theorem cleanChar_of_isAllowedChar {c : Char} (h : isAllowedChar c = true) : CleanChar c := by
  unfold isAllowedChar at h
  rcases Bool.or_eq_true_iff.mp h with halnum | hmark
  · -- the classes of characters are ranges of code points
    have hclass : (c.isUpper || c.isLower || c.isDigit) = true := halnum
    rcases Bool.or_eq_true_iff.mp hclass with hletter | hdigit
    · rcases Bool.or_eq_true_iff.mp hletter with hupper | hlower
      · have hrange : 'A' ≤ c ∧ c ≤ 'Z' := of_decide_eq_true hupper
        exact Or.inl hrange
      · obtain ⟨hlow, hhigh⟩ := Bool.and_eq_true_iff.mp hlower
        have hrange : 'a' ≤ c ∧ c ≤ 'z' := ⟨of_decide_eq_true hlow, of_decide_eq_true hhigh⟩
        exact Or.inr (Or.inl hrange)
    · obtain ⟨hlow, hhigh⟩ := Bool.and_eq_true_iff.mp hdigit
      have hrange : '0' ≤ c ∧ c ≤ '9' := ⟨of_decide_eq_true hlow, of_decide_eq_true hhigh⟩
      exact Or.inr (Or.inr (Or.inl hrange))
  · exact Or.inr (Or.inr (Or.inr (List.contains_iff_mem.mp hmark)))

/-- Cleaning gives a clean expression, whatever it was given. -/
theorem clean_clean (e : Text) : Clean (clean e) := by
  intro c hc
  -- whatever the equals sign left, it has been filtered
  have hallowed : c.is isAllowedChar = true := (List.mem_filter.mp hc).2
  cases c with
  | char c => exact cleanChar_of_isAllowedChar hallowed
  | high _ => exact absurd hallowed Bool.false_ne_true
  | low _ => exact absurd hallowed Bool.false_ne_true

end Formula

/-! ### Formulas by location -/

namespace Json

/-- At a place stands a formula with a given expression: an object whose entry `type` is the text
`formula` and whose entry `expression` is that text. -/
def FormulaAt (t : Json) (place : Location) (e : Text) : Prop :=
  t.at? (.key "type" :: place) = some (.str "formula")
    ∧ t.at? (.key "expression" :: place) = some (.str e)

/-- A place lies inside a formula if it goes on from the place of one. -/
def InsideFormula (t : Json) (place : Location) : Prop :=
  ∃ inner outer e, inner ≠ [] ∧ place = inner ++ outer ∧ t.FormulaAt outer e

/-- Every formula of the tree is clean. -/
def FormulasClean (t : Json) : Prop := ∀ place e, t.FormulaAt place e → Formula.Clean e

instance (t : Json) (place : Location) (e : Text) : Decidable (t.FormulaAt place e) :=
  inferInstanceAs (Decidable (_ ∧ _))

/-- A formula as the cleaner recognises it. -/
theorem expression?_eq_some_iff (entries : Entries) (e : Text) :
    Formula.expression? entries = some e ↔
      entries.get? "type" = some (.str "formula") ∧ entries.get? "expression" = some (.str e) := by
  unfold Formula.expression? Formula.expressionKey
  constructor
  · intro h
    split at h
    · next type e' htype hexpr =>
      rw [Option.ite_none_right_eq_some] at h
      obtain ⟨rfl, he⟩ := h
      obtain rfl := Option.some.inj he
      exact ⟨htype, hexpr⟩
    · cases h
  · rintro ⟨htype, hexpr⟩
    simp only [htype, hexpr, if_true]

theorem formulaAt_iff (t : Json) (place : Location) (e : Text) :
    t.FormulaAt place e ↔
      ∃ entries, t.at? place = some (.obj entries) ∧ Formula.expression? entries = some e := by
  unfold FormulaAt
  simp only [at?, Option.bind_eq_some_iff, expression?_eq_some_iff]
  constructor
  · rintro ⟨⟨v, hv, htype⟩, ⟨w, hw, hexpr⟩⟩
    obtain rfl : v = w := Option.some.inj (hv.symm.trans hw)
    -- only an object has an entry under a key
    cases v with
    | obj entries => exact ⟨entries, hv, htype, hexpr⟩
    | null | bool | int | float | str | arr => cases htype
  · rintro ⟨entries, hv, htype, hexpr⟩
    exact ⟨⟨_, hv, htype⟩, ⟨_, hv, hexpr⟩⟩

/-- One step further out, either a formula stands there or what is inside stays inside. -/
theorem insideFormula_cons_iff (t : Json) (step : Step) (outer : Location) :
    t.InsideFormula (step :: outer) ↔ (∃ e, t.FormulaAt outer e) ∨ t.InsideFormula outer := by
  constructor
  · rintro ⟨inner, further, e, hne, hplace, hformula⟩
    obtain ⟨s, deeper, rfl⟩ := List.exists_cons_of_ne_nil hne
    rw [List.cons_append, List.cons.injEq] at hplace
    obtain ⟨rfl, rfl⟩ := hplace
    rcases deeper with _ | ⟨s', deeper⟩
    · exact Or.inl ⟨e, hformula⟩
    · exact Or.inr ⟨s' :: deeper, further, e, List.cons_ne_nil _ _, rfl, hformula⟩
  · rintro (⟨e, hformula⟩ | ⟨inner, further, e, -, rfl, hformula⟩)
    · exact ⟨[step], outer, e, List.cons_ne_nil _ _, rfl, hformula⟩
    · exact ⟨step :: inner, further, e, List.cons_ne_nil _ _, rfl, hformula⟩

theorem not_insideFormula_nil (t : Json) : ¬ t.InsideFormula [] := by
  rintro ⟨inner, outer, e, hne, hplace, -⟩
  exact hne (List.append_eq_nil_iff.mp hplace.symm).1

/-- What lies inside a formula lies inside an outermost one. -/
theorem InsideFormula.outermost {t : Json} {place : Location} (h : t.InsideFormula place) :
    ∃ inner outer e, inner ≠ [] ∧ place = inner ++ outer ∧ t.FormulaAt outer e
      ∧ ¬ t.InsideFormula outer := by
  induction place with
  | nil => exact absurd h (not_insideFormula_nil t)
  | cons step place ih =>
    by_cases hin : t.InsideFormula place
    · obtain ⟨inner, outer, e, -, rfl, hformula, hout⟩ := ih hin
      exact ⟨step :: inner, outer, e, List.cons_ne_nil _ _, rfl, hformula, hout⟩
    · -- nothing further out is a formula, so the one that `step` lies in stands right here
      obtain ⟨e, hformula⟩ := ((insideFormula_cons_iff t step place).mp h).resolve_right hin
      exact ⟨[step], place, e, List.cons_ne_nil _ _, rfl, hformula, hin⟩

/-! ### One step down in a sanitized tree -/

theorem sanitizeItems_eq_map (items : List Json) :
    sanitizeItems items = items.map sanitizeFormulas := by
  induction items with
  | nil => rw [sanitizeItems, List.map_nil]
  | cons v rest ih => rw [sanitizeItems, ih, List.map_cons]

theorem sanitizeEntries_eq_map (entries : Entries) :
    sanitizeEntries entries = entries.map fun entry => (entry.1, sanitizeFormulas entry.2) := by
  induction entries with
  | nil => rw [sanitizeEntries, List.map_nil]
  | cons entry rest ih => rw [sanitizeEntries, ih, List.map_cons]

/-- A lookup under unchanged keys. -/
theorem Entries.get?_map (f : Text → Json → Json) (entries : Entries) (k : Text) :
    Entries.get? (entries.map fun entry => (entry.1, f entry.1 entry.2)) k
      = (entries.get? k).map (f k) := by
  induction entries with
  | nil => rfl
  | cons entry rest ih =>
    obtain ⟨l, v⟩ := entry
    simp only [Entries.get?, List.map_cons, List.lookup_cons] at ih ⊢
    by_cases hk : k = l
    · subst hk
      rw [beq_self_eq_true, Option.map_some]
    · rw [beq_eq_false_iff_ne.mpr hk]
      exact ih

theorem sanitizeFormulas_obj_of_none {entries : Entries} (h : Formula.expression? entries = none) :
    (obj entries).sanitizeFormulas
      = .obj (entries.map fun entry => (entry.1, entry.2.sanitizeFormulas)) := by
  rw [sanitizeFormulas, h]
  exact congrArg obj (sanitizeEntries_eq_map entries)

theorem sanitizeFormulas_obj_of_some {entries : Entries} {e : Text}
    (h : Formula.expression? entries = some e) :
    (obj entries).sanitizeFormulas = .obj (entries.withExpression (Formula.clean e)) := by
  rw [sanitizeFormulas, h]

/-- No node becomes a text that was none. -/
theorem sanitizeFormulas_eq_str_iff (v : Json) (s : Text) :
    v.sanitizeFormulas = .str s ↔ v = .str s := by
  cases v with
  | null | bool | int | float | str | arr => simp [sanitizeFormulas]
  | obj entries =>
    have hobj : ∃ entries', (obj entries).sanitizeFormulas = .obj entries' := by
      cases hexpr : Formula.expression? entries with
      | some e => exact ⟨_, sanitizeFormulas_obj_of_some hexpr⟩
      | none => exact ⟨_, sanitizeFormulas_obj_of_none hexpr⟩
    obtain ⟨entries', hobj⟩ := hobj
    rw [hobj]
    exact iff_of_false (by simp) (by simp)

/-- Whether an object is a formula, and with which expression, does not change when its entries are
sanitized. -/
theorem expression?_map_sanitizeFormulas (entries : Entries) :
    Formula.expression? (entries.map fun entry => (entry.1, entry.2.sanitizeFormulas))
      = Formula.expression? entries := by
  -- a formula is recognised by two texts
  have htext : ∀ k s, Entries.get? (entries.map fun entry => (entry.1, entry.2.sanitizeFormulas)) k
      = some (.str s) ↔ entries.get? k = some (.str s) := by
    intro k s
    rw [Entries.get?_map (fun _ => sanitizeFormulas), Option.map_eq_some_iff]
    simp only [sanitizeFormulas_eq_str_iff, exists_eq_right]
  refine Option.ext fun e => ?_
  rw [expression?_eq_some_iff, expression?_eq_some_iff, htext, htext]

/-- Every step from a node that is no formula leads to what stood there, sanitized. -/
theorem child?_sanitizeFormulas {v : Json}
    (h : ∀ entries, v = .obj entries → Formula.expression? entries = none) (step : Step) :
    v.sanitizeFormulas.child? step = (v.child? step).map sanitizeFormulas := by
  cases v with
  | null | bool | int | float | str => cases step <;> simp [sanitizeFormulas, child?]
  | arr items =>
    rw [sanitizeFormulas, sanitizeItems_eq_map]
    cases step with
    | key k => rfl
    | index i => rw [child?, child?, List.getElem?_map]
  | obj entries =>
    rw [sanitizeFormulas_obj_of_none (h entries rfl)]
    cases step with
    | key k => exact Entries.get?_map (fun _ => sanitizeFormulas) entries k
    | index i => rfl

/-- A lookup after the expression has been exchanged. -/
theorem Entries.get?_withExpression (e : Text) (entries : Entries) (k : Text) :
    (entries.withExpression e).get? k
      = (entries.get? k).map fun v => if k = Formula.expressionKey then .str e else v := by
  have hpair : entries.withExpression e = entries.map fun entry =>
      (entry.1, (fun l v => if l = Formula.expressionKey then .str e else v) entry.1 entry.2) := by
    refine List.map_congr_left fun entry _ => ?_
    by_cases hk : entry.1 = Formula.expressionKey
    · simp only [if_pos hk]
    · simp only [if_neg hk]
  rw [hpair]
  exact Entries.get?_map (fun l v => if l = Formula.expressionKey then .str e else v) entries k

/-- Exchanging the expression changes no key. -/
theorem Entries.keys_withExpression (e : Text) (entries : Entries) :
    (entries.withExpression e).map Prod.fst = entries.map Prod.fst := by
  rw [Entries.withExpression, List.map_map]
  refine List.map_congr_left fun entry _ => ?_
  by_cases hk : entry.1 = Formula.expressionKey
  · simp only [Function.comp_apply, if_pos hk]
  · simp only [Function.comp_apply, if_neg hk]

/-- A sanitized formula has a clean expression, and nothing else of it has changed. -/
theorem child?_sanitizeFormulas_formula {entries : Entries} {e : Text}
    (h : Formula.expression? entries = some e) (step : Step) :
    (obj entries).sanitizeFormulas.child? step
      = if step = .key "expression" then some (.str (Formula.clean e))
        else (obj entries).child? step := by
  rw [sanitizeFormulas_obj_of_some h]
  cases step with
  | index i => rfl
  | key k =>
    rw [child?, Entries.get?_withExpression]
    by_cases hk : k = "expression"
    · subst hk
      have hexpr := ((expression?_eq_some_iff entries e).mp h).2
      rw [hexpr]
      simp [Formula.expressionKey]
    · have hkey : ¬ Step.key k = .key "expression" := fun heq => hk (Step.key.inj heq)
      simp [Formula.expressionKey, hk, hkey, child?]

/-- Sanitizing changes no key, so no key is repeated that was not. -/
theorem WellFormed.sanitizeFormulas {v : Json} (h : v.WellFormed) :
    v.sanitizeFormulas.WellFormed := by
  induction v using induction_children with
  | node v ih =>
    cases v with
    | null | bool | int | float | str => exact h
    | arr items =>
      rw [Json.sanitizeFormulas, sanitizeItems_eq_map, wellFormed_arr_iff]
      rintro w hw
      obtain ⟨item, hitem, rfl⟩ := List.mem_map.mp hw
      obtain ⟨i, hchild⟩ := exists_mem_children_of_item hitem
      exact ih _ hchild (h.child hchild)
    | obj entries =>
      obtain ⟨hdistinct, hvalues⟩ := (wellFormed_obj_iff entries).mp h
      cases hexpr : Formula.expression? entries with
      | none =>
        rw [sanitizeFormulas_obj_of_none hexpr, wellFormed_obj_iff]
        refine ⟨?_, fun entry hentry => ?_⟩
        · have hkeys : (entries.map fun entry => (entry.1, entry.2.sanitizeFormulas)).map Prod.fst
              = entries.map Prod.fst := by
            rw [List.map_map]
            rfl
          rw [Entries.Distinct, hkeys]
          exact hdistinct
        · obtain ⟨original, hmem, rfl⟩ := List.mem_map.mp hentry
          exact ih _ (mem_children_of_entry hmem) (hvalues _ hmem)
      | some e =>
        rw [sanitizeFormulas_obj_of_some hexpr, wellFormed_obj_iff]
        refine ⟨?_, fun entry hentry => ?_⟩
        · rw [Entries.Distinct, Entries.keys_withExpression]
          exact hdistinct
        · obtain ⟨original, hmem, rfl⟩ := List.mem_map.mp hentry
          -- an entry is kept, or it is the expression, which is a text
          by_cases hk : original.1 = Formula.expressionKey
          · simp only [if_pos hk, WellFormed]
          · simp only [if_neg hk]
            exact hvalues _ hmem

/-! ### Any number of steps down -/

/-- Outside every formula, a sanitized tree holds what stood there, sanitized. -/
theorem at?_sanitizeFormulas {t : Json} {place : Location} (h : ¬ t.InsideFormula place) :
    t.sanitizeFormulas.at? place = (t.at? place).map sanitizeFormulas := by
  induction place with
  | nil => rfl
  | cons step outer ih =>
    -- neither the node one step out nor anything further out is a formula
    have hout := fun hin => h ((insideFormula_cons_iff t step outer).mpr hin)
    rw [at?, ih fun hin => hout (Or.inr hin), at?]
    cases hat : t.at? outer with
    | none => rfl
    | some v =>
      refine child?_sanitizeFormulas (fun entries hv => ?_) step
      rw [Option.eq_none_iff_forall_not_mem]
      intro e he
      exact hout (Or.inl ⟨e, (formulaAt_iff t outer e).mpr ⟨entries, hv ▸ hat, he⟩⟩)

/-- Strictly inside an outermost formula, a sanitized tree holds what stood there, except at the
expression of that formula. -/
theorem at?_sanitizeFormulas_inner {t : Json} {outer : Location} {e : Text}
    (hformula : t.FormulaAt outer e) (hout : ¬ t.InsideFormula outer) {deeper : Location}
    {step : Step} (hstep : step ≠ .key "expression") :
    t.sanitizeFormulas.at? (deeper ++ step :: outer) = t.at? (deeper ++ step :: outer) := by
  obtain ⟨entries, hat, hexpr⟩ := (formulaAt_iff t outer e).mp hformula
  rw [at?_append, at?_append, at?, at?, at?_sanitizeFormulas hout, hat]
  simp only [Option.map_some, Option.bind_some]
  rw [child?_sanitizeFormulas_formula hexpr, if_neg hstep]

/-- From a text no step leads anywhere, so nothing is found at the end of a way. -/
theorem at?_str {place : Location} (hne : place ≠ []) (s : Text) : (str s).at? place = none := by
  induction place with
  | nil => exact absurd rfl hne
  | cons last rest ih =>
    rcases rest with _ | ⟨step, rest⟩
    · cases last <;> rfl
    · rw [at?, ih (List.cons_ne_nil _ _), Option.bind_none]

/-- No formula stands at the expression of a formula or below it: a text has no entries. -/
theorem not_formulaAt_expression {t : Json} {outer deeper : Location} {s e : Text}
    (hat : t.at? (.key "expression" :: outer) = some (.str s)) :
    ¬ t.FormulaAt (deeper ++ .key "expression" :: outer) e := by
  intro h
  obtain ⟨entries, hobj, -⟩ := (formulaAt_iff _ _ _).mp h
  rw [at?_append, hat, Option.bind_some] at hobj
  cases deeper with
  | nil => cases hobj
  | cons step deeper =>
    rw [at?_str (List.cons_ne_nil _ _)] at hobj
    cases hobj

/-- **Outside every formula**, sanitizing leaves exactly the formulas that were there, each with its
expression cleaned. -/
theorem formulaAt_sanitizeFormulas_of_not_inside {t : Json} {place : Location}
    (h : ¬ t.InsideFormula place) (e : Text) :
    t.sanitizeFormulas.FormulaAt place e ↔
      ∃ written, t.FormulaAt place written ∧ e = Formula.clean written := by
  constructor
  · intro hformula
    obtain ⟨entries, hat, hexpr⟩ := (formulaAt_iff _ _ _).mp hformula
    rw [at?_sanitizeFormulas h, Option.map_eq_some_iff] at hat
    obtain ⟨v, hat, hv⟩ := hat
    cases v with
    | null | bool | int | float | str | arr => simp [sanitizeFormulas] at hv
    | obj original =>
      cases hwritten : Formula.expression? original with
      | some written =>
        -- the node was a formula: its new expression is the clean one
        refine ⟨written, (formulaAt_iff t place written).mpr ⟨original, hat, hwritten⟩, ?_⟩
        have hstep := ((expression?_eq_some_iff entries e).mp hexpr).2
        have hclean := child?_sanitizeFormulas_formula hwritten (.key "expression")
        rw [if_pos rfl, hv, child?, hstep] at hclean
        exact Json.str.inj (Option.some.inj hclean)
      | none =>
        -- the node was none, so it has become none
        rw [sanitizeFormulas_obj_of_none hwritten] at hv
        obtain rfl := Json.obj.inj hv
        rw [expression?_map_sanitizeFormulas, hwritten] at hexpr
        cases hexpr
  · rintro ⟨written, hformula, rfl⟩
    obtain ⟨entries, hat, hexpr⟩ := (formulaAt_iff _ _ _).mp hformula
    have hhere : t.sanitizeFormulas.at? place = some (obj entries).sanitizeFormulas := by
      rw [at?_sanitizeFormulas h, hat, Option.map_some]
    have htype := ((expression?_eq_some_iff entries written).mp hexpr).1
    unfold FormulaAt
    rw [at?, at?, hhere, Option.bind_some, Option.bind_some,
      child?_sanitizeFormulas_formula hexpr, child?_sanitizeFormulas_formula hexpr, if_pos rfl,
      if_neg (by decide)]
    exact ⟨htype, rfl⟩

/-- **Inside a formula**, sanitizing leaves the formulas as they were written. -/
theorem formulaAt_sanitizeFormulas_of_inside {t : Json} {place : Location}
    (h : t.InsideFormula place) (e : Text) :
    t.sanitizeFormulas.FormulaAt place e ↔ t.FormulaAt place e := by
  obtain ⟨inner, outer, written, hne, rfl, hformula, hout⟩ := h.outermost
  -- the way from the outermost formula is taken apart at its first step
  obtain ⟨deeper, step, rfl⟩ := List.eq_nil_or_concat inner |>.resolve_left hne
  rw [List.concat_eq_append, List.append_assoc, List.singleton_append]
  by_cases hstep : step = .key "expression"
  · subst hstep
    have hsanitized := ((formulaAt_sanitizeFormulas_of_not_inside hout _).mpr
      ⟨written, hformula, rfl⟩).2
    exact iff_of_false (not_formulaAt_expression hsanitized) (not_formulaAt_expression hformula.2)
  · unfold FormulaAt
    rw [← List.cons_append, ← List.cons_append, at?_sanitizeFormulas_inner hformula hout hstep,
      at?_sanitizeFormulas_inner hformula hout hstep]

/-- **The reach of sanitizing.** Every formula that lies in no other one is clean afterwards, and
all formulas are clean exactly if those inside other formulas were clean before. -/
theorem sanitizeFormulas_reach (t : Json) :
    (∀ place e, t.sanitizeFormulas.FormulaAt place e → ¬ t.InsideFormula place →
      Formula.Clean e) ∧
    (t.sanitizeFormulas.FormulasClean ↔
      ∀ place e, t.FormulaAt place e → t.InsideFormula place → Formula.Clean e) := by
  have houtside : ∀ place e, t.sanitizeFormulas.FormulaAt place e → ¬ t.InsideFormula place →
      Formula.Clean e := by
    intro place e hformula hout
    obtain ⟨written, -, rfl⟩ := (formulaAt_sanitizeFormulas_of_not_inside hout e).mp hformula
    exact Formula.clean_clean written
  refine ⟨houtside, fun hclean place e hformula hin => ?_, fun hinner place e hformula => ?_⟩
  · exact hclean place e ((formulaAt_sanitizeFormulas_of_inside hin e).mpr hformula)
  · by_cases hin : t.InsideFormula place
    · exact hinner place e ((formulaAt_sanitizeFormulas_of_inside hin e).mp hformula) hin
    · exact houtside place e hformula hin

/-- A formula inside another one keeps its expression, clean or not. -/
theorem inner_formula_kept :
    ¬ (Json.obj [("type", .str "formula"), ("expression", .str "=1"),
        ("x", .obj [("type", .str "formula"), ("expression", .str "=A1!B")])]
      ).sanitizeFormulas.FormulasClean := by
  intro hclean
  have hkept := hclean [.key "x"] "=A1!B" (by decide)
  exact absurd hkept (by decide)

end Json

end Gridwork
