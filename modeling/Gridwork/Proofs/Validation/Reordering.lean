import Gridwork.Proofs.Json.Reordering
import Gridwork.Proofs.Validation.Report
import Gridwork.Proofs.Validation.Structure

/-!
# Validation and the order of keys

Validation lists its violations in the order in which it comes to them, and nothing else about them
depends on that order: in a shuffled tree it lists the same ones (`violations_of_shuffled`).

The walks list what they find at a node child by child, so that they list the same if the children
are the same in any order (`ListedAlike.of_children`). What the structure lacks is found by looking
up fields, and shuffling changes no lookup.
-/

namespace Gridwork

namespace Validation

open Json

/-! ### The walks -/

/-- Two trees in which every walk finds the same violations, in some order. -/
structure ListedAlike (v w : Json) : Prop where
  path : ∀ place, pathViolations place v = pathViolations place w
  scan : ∀ place, (scanBelow place v).Perm (scanBelow place w)
  walk : ∀ scan place, (walk scan place v).Perm (walk scan place w)

theorem ListedAlike.refl (v : Json) : ListedAlike v v :=
  ⟨fun _ => rfl, fun _ => .refl _, fun _ _ => .refl _⟩

/-- A child is listed alike at the same step. -/
theorem ListedAlike.walkChild {v w : Json} (h : ListedAlike v w) (scan : Bool) (place : Location)
    (step : Step) :
    (Validation.walkChild scan place (step, v)).Perm
      (Validation.walkChild scan place (step, w)) := by
  unfold Validation.walkChild
  dsimp only
  rw [h.path]
  refine .append_left _ ?_
  split
  · split
    · exact h.scan _
    · exact .refl _
  · exact .append_left _ (h.walk scan _)

/-- **Two trees are listed alike** if their children are, in any order. -/
theorem ListedAlike.of_children {v w : Json} {children : List (Step × Json)}
    (hpath : ∀ place, pathViolations place v = pathViolations place w)
    (hperm : v.children.Perm children)
    (hchildren : List.Forall₂ (fun c d => c.1 = d.1 ∧ ListedAlike c.2 d.2) children w.children) :
    ListedAlike v w := by
  refine ⟨hpath, fun place => ?_, fun scan place => ?_⟩
  · rw [scanBelow_eq_flatMap, scanBelow_eq_flatMap]
    refine (hperm.flatMap_right _).trans (perm_flatMap_of_forall₂ (hchildren.imp ?_))
    rintro ⟨step, v⟩ ⟨_, w⟩ ⟨rfl, h⟩
    dsimp only at h ⊢
    rw [h.path]
    exact .append_left _ (h.scan _)
  · rw [walk_eq_flatMap, walk_eq_flatMap]
    refine (hperm.flatMap_right _).trans (perm_flatMap_of_forall₂ (hchildren.imp ?_))
    rintro ⟨step, v⟩ ⟨_, w⟩ ⟨rfl, h⟩
    exact h.walkChild scan place step

/-- Shuffling one object leaves a tree listed alike. -/
theorem listedAlike_of_step {v w : Json} (h : ShuffleStep v w) : ListedAlike v w := by
  -- down to the object that is shuffled; every node on the way has one child that is listed alike
  induction h with
  | @here a b h hperm =>
    exact .of_children (fun _ => rfl) (hperm.map _)
      (List.forall₂_same.mpr fun child _ => ⟨rfl, .refl child.2⟩)
  | item before after _ ih =>
    -- the members keep their indices
    refine .of_children (fun _ => rfl) (.refl _) ?_
    simp only [children, List.zipIdx_append, List.zipIdx_cons, List.map_append, List.map_cons]
    exact forall₂_append_cons (fun child => ⟨rfl, .refl child.2⟩) ⟨rfl, ih⟩ _ _
  | entry before k after _ ih =>
    refine .of_children (fun _ => rfl) (.refl _) ?_
    simp only [children, List.map_append, List.map_cons]
    exact forall₂_append_cons (fun child => ⟨rfl, .refl child.2⟩) ⟨rfl, ih⟩ _ _

/-! ### The structure -/

/-- Shuffling makes no text of an object or array, and changes no lookup. -/
theorem sharesStructure_shuffledOnce : SharesStructure ShuffledOnce where
  null := .refl null
  layer h := by
    cases h with
    | refl => exact .same _
    | single hstep =>
      cases hstep.kinds with
      | obj hget => exact .obj fun k _ => hget k
      | arr hmembers => exact .arr hmembers

/-! ### All violations -/

theorem violations_of_step {v w : Json} (h : ShuffleStep v w) (scan : Bool) :
    (violations scan v).Perm (violations scan w) := by
  rw [violations, violations, sharesStructure_shuffledOnce.structureViolations_eq (.single h)]
  exact ((listedAlike_of_step h).walk scan []).append_right _

end Validation

/-- **The same violations** are found in a shuffled tree, whether the caller's data is scanned or
not. -/
theorem violations_of_shuffled {v w : Json} (h : Json.Shuffled v w) (scan : Bool) :
    (violations scan v).Perm (violations scan w) := by
  induction h with
  | refl => exact .refl _
  | tail _ hstep ih => exact ih.trans (Validation.violations_of_step hstep scan)

end Gridwork
