import Gridwork.Proofs.Formula.Partly
import Gridwork.Proofs.Validation.Report
import Gridwork.Proofs.Validation.Structure

/-!
# Validation after sanitizing

Requests are sanitized before they are validated, so what is validated is not what was sent. Still a
request does not become valid by that, apart from one kind of violation.

A sanitized tree has the same keys at the same places, and the same texts except for the expressions
that were cleaned (`Json.sanitized_at`). Cleaning deletes characters; it keeps every `/` and leaves
no other mark of a file path, nor does it bring two characters together to one
(`Formula.pathLike_clean_iff`). So a path-like expression may become harmless if it had no `/` in
it. But the key `expression` is not in the vocabulary, and wherever the walk looks at keys it is
reported itself. What is left are expressions below the caller's own data, which are looked at in a
scan only.

`violations_sanitizeFormulas` puts this together.
-/

namespace Gridwork

/-! ### Clean expressions and paths -/

namespace Formula

open Validation

/-- Cleaning keeps every slash. -/
theorem slash_mem_clean_iff (e : Text) : .char '/' ∈ (clean e).toList ↔ .char '/' ∈ e.toList := by
  have hallowed : isAllowedChar '/' = true := by decide
  unfold clean cleanChars
  dsimp only
  rw [List.mem_filter, CodePoint.is_char, and_iff_left hallowed]
  -- the only character that goes before the filter is an equals sign
  split
  · next rest heq =>
    rw [heq, List.mem_cons]
    exact (or_iff_right (by decide)).symm
  · exact Iff.rfl

/-- The marks of a file path other than a slash have a character that is not clean. -/
theorem not_infix_clean {mark : Text} (hmark : mark = "\\" ∨ mark = "..:") (e : Text) :
    ¬ mark.toList <:+: (clean e).toList := by
  intro hinfix
  have hclean := clean_clean e
  rcases hmark with rfl | rfl
  · have hmem : .char '\\' ∈ (clean e).toList := hinfix.subset (by decide)
    exact absurd (hclean _ hmem) (by decide)
  · have hmem : .char ':' ∈ (clean e).toList := hinfix.subset (by decide)
    exact absurd (hclean _ hmem) (by decide)

/-- **What is left of a path.** A clean expression is path-like if there was a slash in it. -/
theorem pathLike_clean_iff (e : Text) : PathLike (clean e) ↔ .char '/' ∈ e.toList := by
  have hslash : ("/" : Text).toList <:+: (clean e).toList ↔ .char '/' ∈ (clean e).toList :=
    List.singleton_infix_iff _ _
  rw [← slash_mem_clean_iff, ← hslash]
  constructor
  · rintro ⟨mark, hmark, hinfix⟩
    simp only [pathMarks, List.mem_cons, List.not_mem_nil, or_false] at hmark
    rcases hmark with rfl | hmark
    · exact hinfix
    · exact absurd hinfix (not_infix_clean hmark e)
  · intro hinfix
    exact ⟨"/", by decide, hinfix⟩

/-- A path-like expression that is harmless once it is clean has one of the other marks. -/
theorem mark_of_not_pathLike_clean {e : Text} (h : PathLike e) (hclean : ¬ PathLike (clean e)) :
    ("\\" : Text).toList <:+: e.toList ∨ ("..:" : Text).toList <:+: e.toList := by
  obtain ⟨mark, hmark, hinfix⟩ := h
  simp only [pathMarks, List.mem_cons, List.not_mem_nil, or_false] at hmark
  rcases hmark with rfl | rfl | rfl
  · have hslash : .char '/' ∈ e.toList := hinfix.subset (by decide)
    exact absurd ((pathLike_clean_iff e).mpr hslash) hclean
  · exact Or.inl hinfix
  · exact Or.inr hinfix

end Formula

/-! ### Violations -/

namespace Validation

open Json

/-- The structure is not looked up under the key of an expression. -/
theorem sharesStructure_maybeSanitized : SharesStructure MaybeSanitized where
  null := .same .null
  layer h := by
    have hkeys : ∀ k ∈ structureKeys, k ≠ Formula.expressionKey := by decide
    cases h.layer with
    | same => exact .same _
    | arr hitems => exact .arr hitems
    | obj hentries => exact .obj fun k hk => hentries.get? (hkeys k hk)

variable {request : Json} {scan : Bool}

theorem hasStructure_sanitizeFormulas_iff (request : Json) :
    HasStructure request.sanitizeFormulas ↔ HasStructure request := by
  rw [← structureViolations_eq_nil_iff, ← structureViolations_eq_nil_iff,
    sharesStructure_maybeSanitized.structureViolations_eq (.sanitized request)]

/-- A valid request stays valid. -/
theorem valid_sanitizeFormulas_of_valid (hw : request.WellFormed)
    (h : violations scan request = []) : violations scan request.sanitizeFormulas = [] := by
  rw [violations_eq_nil_iff hw] at h
  rw [violations_eq_nil_iff hw.sanitizeFormulas]
  obtain ⟨hpath, hkey, hstructure⟩ := h
  refine ⟨fun place s hne hat hvis => ?_, fun k outer v hat hvis => ?_,
    (hasStructure_sanitizeFormulas_iff request).mpr hstructure⟩
  · rcases request.sanitized_at place with ⟨outer, e, rfl, hformula, hclean⟩ | hrel
    · -- a clean expression is path-like only if it was so before
      obtain rfl := Json.str.inj (Option.some.inj (hclean.symm.trans hat))
      intro hpathlike
      have hslash : .char '/' ∈ e.toList := (Formula.pathLike_clean_iff e).mp hpathlike
      refine hpath _ e hne hformula.2 hvis ⟨"/", by decide, ?_⟩
      exact (List.singleton_infix_iff _ _).mpr hslash
    · exact hpath place s hne ((at?_str_iff_of_rel hrel s).mp hat) hvis
  · obtain ⟨w, hw⟩ := (request.exists_sanitized_at_iff _).mp ⟨v, hat⟩
    exact hkey k outer w hw hvis

/-- **What sanitizing can hide.** A violation of a request that is valid once it is sanitized is a
path-like expression below the caller's data, without a slash. -/
theorem hidden_of_valid_sanitizeFormulas (hw : request.WellFormed)
    (h : violations scan request.sanitizeFormulas = []) {found : Violation}
    (hfound : found ∈ violations scan request) :
    ∃ outer e, found = .pathLike (.key "expression" :: outer) e ∧ request.FormulaAt outer e ∧
      (∃ step ∈ outer, step.opensData = true) ∧
        (("\\" : Text).toList <:+: e.toList ∨ ("..:" : Text).toList <:+: e.toList) := by
  rw [violations_eq_nil_iff hw.sanitizeFormulas] at h
  obtain ⟨hpath, hkey, hstructure⟩ := h
  rcases violation_cases hfound with ⟨place, s, rfl⟩ | ⟨place, rfl⟩ | hlacks
  · obtain ⟨hne, hat, hpathlike, hvis⟩ := (mem_pathLike_iff hw place s).mp hfound
    rcases request.sanitized_at place with ⟨outer, e, rfl, hformula, hclean⟩ | hrel
    · obtain rfl := Json.str.inj (Option.some.inj (hformula.2.symm.trans hat))
      refine ⟨outer, e, rfl, hformula, ?_, ?_⟩
      · -- wherever the keys are looked at, that of the expression is not allowed
        by_contra hnone
        have hvisited : Location.Visited (.key "expression" :: outer) := by
          intro step hstep
          by_contra hopen
          exact hnone ⟨step, hstep, by simpa using hopen⟩
        rcases hkey "expression" outer _ hclean hvisited with hdata | hallowed
        · exact absurd hdata (by decide)
        · exact absurd hallowed (by decide)
      · exact Formula.mark_of_not_pathLike_clean hpathlike (hpath _ _ hne hclean hvis)
    · exact absurd hpathlike (hpath place s hne ((at?_str_iff_of_rel hrel s).mpr hat) hvis)
  · -- keys are the same in both
    obtain ⟨k, outer, v, rfl, hat, hvis, hdata, hnot⟩ := (mem_notAllowed_iff hw place).mp hfound
    obtain ⟨w, hw⟩ := (request.exists_sanitized_at_iff _).mpr ⟨v, hat⟩
    rcases hkey k outer w hw hvis with hk | hk
    · rw [hdata] at hk
      cases hk
    · rw [hnot] at hk
      cases hk
  · have hhas := (hasStructure_sanitizeFormulas_iff request).mp hstructure
    rw [(structureViolations_eq_nil_iff request).mpr hhas] at hlacks
    cases hlacks

/-- Without a scan nothing below the caller's data is looked at, so nothing is hidden. -/
theorem valid_of_valid_sanitizeFormulas (hw : request.WellFormed)
    (h : violations false request.sanitizeFormulas = []) : violations false request = [] := by
  refine List.eq_nil_iff_forall_not_mem.mpr fun found hfound => ?_
  obtain ⟨outer, e, rfl, -, hopen, -⟩ := hidden_of_valid_sanitizeFormulas hw h hfound
  obtain ⟨-, -, -, hvis⟩ := (mem_pathLike_iff hw _ e).mp hfound
  have hnot : ¬ Location.Visited ([.key "expression"] ++ outer) :=
    Location.not_visited_append hopen (List.cons_ne_nil _ _)
  rcases hvis with hvisited | hscan
  · exact hnot hvisited
  · cases hscan

end Validation

/-- **Sanitizing makes no request valid** that is looked at without a scan. In a scan it hides
nothing but path-like expressions below the caller's data, of which it leaves no mark. -/
theorem violations_sanitizeFormulas {request : Json} (hw : request.WellFormed) :
    (violations false request.sanitizeFormulas = [] ↔ violations false request = []) ∧
      (violations true request = [] → violations true request.sanitizeFormulas = []) ∧
        (violations true request.sanitizeFormulas = [] → ∀ found ∈ violations true request,
          ∃ outer e, found = .pathLike (.key "expression" :: outer) e ∧
            request.FormulaAt outer e ∧ (∃ step ∈ outer, step.opensData = true) ∧
              (("\\" : Text).toList <:+: e.toList ∨ ("..:" : Text).toList <:+: e.toList)) :=
  ⟨⟨Validation.valid_of_valid_sanitizeFormulas hw, Validation.valid_sanitizeFormulas_of_valid hw⟩,
    Validation.valid_sanitizeFormulas_of_valid hw,
    fun h _ hfound => Validation.hidden_of_valid_sanitizeFormulas hw h hfound⟩

/-- A request with a path in an expression below a header, which cleaning takes apart. -/
def hidingRequest : Json :=
  .obj [("workbook", .obj [("name", .str "q"), ("sheets", .arr [.obj [("name", .str "a"),
    ("header", .obj [("total",
      .obj [("type", .str "formula"), ("expression", .str "=C\\x")])])]])])]

/-- A violation that is gone once the request is sanitized. -/
theorem violations_sanitizeFormulas_hiding : hidingRequest.WellFormed ∧
    violations true hidingRequest.sanitizeFormulas = [] ∧ violations true hidingRequest ≠ [] ∧
      ∀ found ∈ violations true hidingRequest,
        ∃ outer e, found = .pathLike (.key "expression" :: outer) e ∧
          hidingRequest.FormulaAt outer e ∧ (∃ step ∈ outer, step.opensData = true) ∧
            (("\\" : Text).toList <:+: e.toList ∨ ("..:" : Text).toList <:+: e.toList) := by
  have hwell : hidingRequest.WellFormed := by decide
  have hvalid : violations true hidingRequest.sanitizeFormulas = [] := by decide +kernel
  have hfound : violations true hidingRequest ≠ [] := by decide +kernel
  exact ⟨hwell, hvalid, hfound, (violations_sanitizeFormulas hwell).2.2 hvalid⟩

end Gridwork
