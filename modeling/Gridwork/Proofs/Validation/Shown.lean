import Gridwork.Proofs.Json.Hereditary
import Gridwork.Proofs.Validation.Report

/-!
# What violations show

A violation shows a place in the request or a field that every workbook description has, and a
path-like text besides. `Violation.Shows T` says that these texts have the property `T`. A property
that goes down the tree of a request (`Json.Hereditary`) is one of the keys on the way to a node and
of the text of the node, so every violation of the request shows only what has it
(`shows_of_violation`), and so does its message (`Violation.Shows.message`).
-/

namespace Gridwork

variable {T : Text → Prop} {P : Json → Prop}

/-! ### Violations -/

/-- What a violation shows has a property. -/
def Violation.Shows (T : Text → Prop) : Violation → Prop
  | .pathLike place value => T place.text ∧ T value
  | .notAllowed place => T place.text
  | .bodyNotObject => True
  | .missing field => T field
  | .notObject field => T field
  | .missingOrNotText field => T field
  | .notArray field => T field
  | .noSheets field => T field

/-- The message is made of what is shown. -/
theorem Violation.Shows.message (hP : Json.Hereditary T P) {found : Violation}
    (h : found.Shows T) : T found.message := by
  have text : ∀ s : String, T s := hP.string
  cases found with
  | pathLike place value => exact hP.append (hP.append (hP.append (text _) h.1) (text _)) h.2
  | notAllowed place => exact hP.append (text _) h
  | bodyNotObject => exact text _
  | missing | notObject | missingOrNotText | notArray | noSheets =>
    exact hP.append (hP.append (text _) h) (text _)

/-! ### Nodes -/

namespace Json

variable (hP : Hereditary T P)
include hP

/-- One step down. -/
theorem Hereditary.child {v : Json} (hv : P v) {child : Step × Json} (hc : child ∈ v.children) :
    (∀ k, child.1 = .key k → T k) ∧ P child.2 := by
  cases v with
  | null | bool | int | float | str => simp [children] at hc
  | arr items =>
    obtain ⟨item, hitem, rfl⟩ := List.mem_map.mp hc
    refine ⟨?_, hP.item hv (List.fst_mem_of_mem_zipIdx hitem)⟩
    intro k hk
    cases hk
  | obj entries =>
    obtain ⟨entry, hentry, rfl⟩ := List.mem_map.mp hc
    have hkey : T entry.1 := hP.key hv hentry
    exact ⟨fun k hk => Step.key.inj hk ▸ hkey, hP.entry hv hentry⟩

/-- **Every node below a place**, and the text of its place. -/
theorem Hereditary.descendant {v : Json} (hv : P v) {place : Location} (hplace : T place.text)
    {node : Location × Json} (hnode : node ∈ v.descendants place) : T node.1.text ∧ P node.2 := by
  induction v using induction_children generalizing place with
  | node v ih =>
    rw [descendants_eq_flatMap, List.mem_flatMap] at hnode
    obtain ⟨child, hc, hnode⟩ := hnode
    obtain ⟨hstep, hchild⟩ := hP.child hv hc
    have hplace' : T (Location.text (child.1 :: place)) := hP.extend hplace hstep
    rcases List.mem_cons.mp hnode with rfl | hbelow
    · exact ⟨hplace', hchild⟩
    · exact ih child hc hchild hplace' hbelow

end Json

/-! ### Requests -/

section Requests

variable (hP : Json.Hereditary T P) {request : Json} {found : Violation}
include hP

/-- Of the structure only field names are shown. -/
theorem Validation.shows_of_structureViolations (h : found ∈ structureViolations request) :
    found.Shows T := by
  have text : ∀ s : String, T s := hP.string
  have hsheet : T sheetsPath := hP.append (hP.append (text _) (text _)) (text _)
  have hfirst : ∀ {v : Json}, found ∈ firstSheetViolations v → found.Shows T := by
    intro v hv
    unfold firstSheetViolations at hv
    split at hv
    · split at hv
      · cases hv
      · obtain rfl := List.mem_singleton.mp hv
        exact hP.append (hP.append hsheet (text _)) (text _)
    · obtain rfl := List.mem_singleton.mp hv
      exact hP.append hsheet (text _)
  have hsheets : ∀ {v : Json}, found ∈ sheetsViolations v → found.Shows T := by
    intro v hv
    unfold sheetsViolations at hv
    split at hv
    case h_3 => exact hfirst hv
    all_goals
      obtain rfl := List.mem_singleton.mp hv
      exact hsheet
  unfold structureViolations at h
  split at h
  · split at h
    case h_3 =>
      rcases List.mem_append.mp h with h | h
      · split at h
        · cases h
        · obtain rfl := List.mem_singleton.mp h
          exact hP.append (hP.append (text _) (text _)) (text _)
      · exact hsheets h
    all_goals
      obtain rfl := List.mem_singleton.mp h
      exact text _
  · obtain rfl := List.mem_singleton.mp h
    trivial

/-- **Violations show only parts of the request.** -/
theorem shows_of_violation {scan : Bool} (h : P request) (hf : found ∈ violations scan request) :
    found.Shows T := by
  rcases List.mem_append.mp hf with hwalk | hstructure
  · rw [Validation.walk_eq_findings scan (fun step hs => by cases hs), List.mem_flatMap] at hwalk
    obtain ⟨node, hnode, hfound⟩ := hwalk
    have hroot : T (Location.text []) := hP.string ""
    obtain ⟨hplace, hvalue⟩ := hP.descendant h hroot hnode
    rcases List.mem_append.mp hfound with hpath | hkey
    · obtain ⟨s, hs, rfl, -⟩ := Validation.mem_pathFindings_iff.mp hpath
      rw [hs] at hvalue
      exact ⟨hplace, hP.str_iff.mp hvalue⟩
    · obtain ⟨rfl, -⟩ := Validation.mem_keyFindings_iff.mp hkey
      exact hplace
  · exact Validation.shows_of_structureViolations hP hstructure

end Requests

end Gridwork
