import Gridwork.Proofs.Validation.Report
import Gridwork.Proofs.Validation.Structure

/-!
# The caller's data is out of reach

What lies below an entry keyed `header`, `rows` or one of their older names belongs to the caller.
`Json.OutsideData D v w` says of two trees that they are the same outside the caller's data; the
values of such entries are related by `D`. Since the walk passes through these entries only as a
scan, the violations of the two trees correspond as those of the values do
(`Validation.walk_of_outsideData`), and the structure is the same, because it is not looked up
through such an entry (`sharesStructure_outsideData`). `violations_barrier` states what follows:

* without a scan the caller's data may be exchanged for any other, as long as the values of the
  entries themselves are no path-like texts (`Json.Exchangeable`);
* a scan finds path-like texts within the caller's data and nothing else that is new
  (`Violation.WithinData`);
* a scan does not look at the keys within the caller's data (`Json.RenamedKeys`).
-/

namespace Gridwork

/-! ### Trees that are the same outside the caller's data -/

namespace Json

/-- Two entries of one key. If the key opens the caller's data, the values are related by `D`, and
otherwise by `R`. -/
inductive EntryOutsideData (D R : Json → Json → Prop) : Text × Json → Text × Json → Prop
  | data {k : Text} {v w : Json} (hk : Field.isBusinessData k = true) (h : D v w) :
      EntryOutsideData D R (k, v) (k, w)
  | other {k : Text} {v w : Json} (hk : Field.isBusinessData k = false) (h : R v w) :
      EntryOutsideData D R (k, v) (k, w)

/-- Two trees that are the same outside the caller's data. -/
inductive OutsideData (D : Json → Json → Prop) : Json → Json → Prop
  | same (v : Json) : OutsideData D v v
  | arr {items items' : List Json} (h : List.Forall₂ (OutsideData D) items items') :
      OutsideData D (.arr items) (.arr items')
  | obj {a b : Entries} (h : List.Forall₂ (EntryOutsideData D (OutsideData D)) a b) :
      OutsideData D (.obj a) (.obj b)

/-- A value that is no path-like text. -/
def NoPath (v : Json) : Prop := ∀ s, v = .str s → ¬ Validation.PathLike s

/-- Two values of an entry that may stand for one another: neither is a path-like text. -/
def Exchangeable (v w : Json) : Prop := v = w ∨ v.NoPath ∧ w.NoPath

/-- Two trees that are the same but for the keys of their objects, which need not be distinct. -/
inductive RenamedKeys : Json → Json → Prop
  | same (v : Json) : RenamedKeys v v
  | arr {items items' : List Json} (h : List.Forall₂ RenamedKeys items items') :
      RenamedKeys (.arr items) (.arr items')
  | obj {a b : Entries} (h : List.Forall₂ RenamedKeys (a.map Prod.snd) (b.map Prod.snd)) :
      RenamedKeys (.obj a) (.obj b)

end Json

/-- A path-like text that lies strictly below an entry that opens the caller's data. -/
def Violation.WithinData (found : Violation) : Prop :=
  ∃ place s, found = .pathLike place s ∧ ∃ step ∈ place.tail, step.opensData = true

instance (found : Violation) : Decidable found.WithinData :=
  match found with
  | .pathLike place s =>
    decidable_of_iff (∃ step ∈ place.tail, step.opensData = true)
      ⟨fun h => ⟨place, s, rfl, h⟩, fun ⟨_, _, heq, h⟩ => (Violation.pathLike.inj heq).1 ▸ h⟩
  | .notAllowed _ | .bodyNotObject | .missing _ | .notObject _ | .missingOrNotText _ | .notArray _
  | .noSheets _ => isFalse fun ⟨_, _, heq, _⟩ => by cases heq

namespace Validation

open Json

/-! ### The walk -/

/-- What the walk lists about the value of an entry that opens the caller's data. -/
def dataViolations (scan : Bool) (place : Location) (v : Json) : List Violation :=
  pathViolations place v ++ if scan then scanBelow place v else []

theorem walkChild_of_opensData {step : Step} (h : step.opensData = true) (scan : Bool)
    (place : Location) (v : Json) :
    walkChild scan place (step, v) = dataViolations scan (step :: place) v := by
  rw [walkChild, dataViolations]
  dsimp only
  rw [if_pos h]

section Walk

variable {D : Json → Json → Prop} {S : Violation → Violation → Prop} {scan : Bool} {v w : Json}

/-- Two children at the same step. If it opens the caller's data, they are related by `D`. -/
structure ChildOutsideData (D : Json → Json → Prop) (c d : Step × Json) : Prop where
  step : c.1 = d.1
  data : c.1.opensData = true → D c.2 d.2
  other : c.1.opensData = false → OutsideData D c.2 d.2

/-- Two trees that are the same outside the caller's data have such children, unless they are the
same altogether. -/
theorem children_of_outsideData (h : OutsideData D v w) :
    v = w ∨ List.Forall₂ (ChildOutsideData D) v.children w.children := by
  cases h with
  | same => exact Or.inl rfl
  | arr hitems =>
    refine Or.inr ?_
    rw [children, children, List.forall₂_map_left_iff, List.forall₂_map_right_iff]
    refine (forall₂_zipIdx hitems 0).imp fun item item' hitem => ?_
    obtain ⟨hindex, hvalue⟩ := hitem
    -- an index opens nothing
    exact ⟨congrArg Step.index hindex, fun hopen => (by cases hopen), fun _ => hvalue⟩
  | obj hentries =>
    refine Or.inr ?_
    rw [children, children, List.forall₂_map_left_iff, List.forall₂_map_right_iff]
    refine hentries.imp fun entry entry' hentry => ?_
    cases hentry with
    | data hk hdata =>
      refine ⟨rfl, fun _ => hdata, fun hclosed => ?_⟩
      have hopen : false = true := hclosed.symm.trans hk
      cases hopen
    | other hk hvalue =>
      refine ⟨rfl, fun hopen => ?_, fun _ => hvalue⟩
      have hclosed : false = true := hk.symm.trans hopen
      cases hclosed

/-- The text of a node outside the caller's data is the same in both trees. -/
theorem pathViolations_of_outsideData (h : OutsideData D v w) (place : Location) :
    pathViolations place v = pathViolations place w := by
  cases h with
  | same | arr | obj => rfl

/-- **The walk past the caller's data.** The violations of two trees that are the same outside the
caller's data go together if those of the data do. -/
theorem walk_of_outsideData (hS : ∀ found, S found found)
    (hD : ∀ place v w, D v w →
      List.Forall₂ S (dataViolations scan place v) (dataViolations scan place w))
    (h : OutsideData D v w) (place : Location) :
    List.Forall₂ S (walk scan place v) (walk scan place w) := by
  have hsame : ∀ found : List Violation, List.Forall₂ S found found :=
    fun found => List.forall₂_same.mpr fun x _ => hS x
  induction v using induction_children generalizing w place with
  | node v ih =>
    rcases children_of_outsideData h with rfl | hchildren
    · exact hsame _
    rw [walk_eq_flatMap, walk_eq_flatMap]
    refine List.rel_flatMap (forall₂_mem hchildren) ?_
    rintro ⟨step, x⟩ ⟨_, y⟩ ⟨hchild, rfl, hdata, hother⟩
    by_cases hopen : step.opensData = true
    · rw [walkChild_of_opensData hopen, walkChild_of_opensData hopen]
      exact hD _ _ _ (hdata hopen)
    · -- the key and the text of the child are the same, so only what lies below counts
      have hclosed : step.opensData = false := by simpa using hopen
      have hbelow := ih (step, x) hchild (hother hclosed) (step :: place)
      rw [walkChild, walkChild]
      dsimp only
      rw [if_neg hopen, if_neg hopen, pathViolations_of_outsideData (hother hclosed)]
      exact List.rel_append (hsame _) (List.rel_append (hsame _) hbelow)

end Walk

/-! ### The structure -/

/-- No key that is looked up for the structure opens the caller's data. -/
theorem sharesStructure_outsideData (D : Json → Json → Prop) : SharesStructure (OutsideData D) where
  null := .same .null
  layer h := by
    have hkeys : ∀ k ∈ structureKeys, Field.isBusinessData k = false := by decide
    cases h with
    | same => exact .same _
    | arr hitems => exact .arr hitems
    | @obj a b hentries =>
      refine .obj fun k hk => ?_
      have hrel := Entries.rel_get?_of_forall₂
        (fun l v w => Field.isBusinessData l = false → OutsideData D v w)
        (hentries.imp fun entry entry' hentry => by
          cases hentry with
          | data hopen _ =>
            refine ⟨rfl, fun hclosed => ?_⟩
            have hno : false = true := hclosed.symm.trans hopen
            cases hno
          | other _ hvalue => exact ⟨rfl, fun _ => hvalue⟩) k
      generalize a.get? k = x at hrel
      generalize b.get? k = y at hrel
      cases hrel with
      | none => exact .none
      | some hvalue => exact .some (hvalue (hkeys k hk))

/-! ### Other data -/

/-- A value that is no path-like text is passed over when the data is not scanned. -/
theorem dataViolations_of_noPath {v : Json} (h : v.NoPath) (place : Location) :
    dataViolations false place v = [] := by
  have hpath : pathViolations place v = [] := by
    cases v with
    | str s => exact if_neg fun hs => h s rfl ((containsPath_iff s).mp hs)
    | null | bool | int | float | arr | obj => rfl
  rw [dataViolations, hpath]
  rfl

/-- **Without a scan** the caller's data may be exchanged. -/
theorem violations_of_exchanged {v w : Json} (h : OutsideData Exchangeable v w) :
    violations false v = violations false w := by
  have hdata : ∀ place v w, Exchangeable v w →
      List.Forall₂ Eq (dataViolations false place v) (dataViolations false place w) := by
    rintro place v w (rfl | ⟨hv, hw⟩)
    · exact List.forall₂_same.mpr fun _ _ => rfl
    · rw [dataViolations_of_noPath hv, dataViolations_of_noPath hw]
      exact .nil
  have hwalk := walk_of_outsideData (fun _ => rfl) hdata h []
  rw [List.forall₂_eq_eq_eq] at hwalk
  rw [violations, violations, hwalk, (sharesStructure_outsideData _).structureViolations_eq h]

/-! ### What a scan adds -/

/-- Places that are not visited are those below the caller's data. -/
theorem not_visited_iff (place : Location) :
    ¬ place.Visited ↔ ∃ step ∈ place.tail, step.opensData = true := by
  unfold Location.Visited
  simp only [not_forall, Bool.not_eq_false, exists_prop]

/-- What is found about a node without a scan is what is found with one outside the caller's
data. -/
theorem findings_eq_filter (node : Location × Json) :
    findings false node = (findings true node).filter fun found => !decide found.WithinData := by
  obtain ⟨place, v⟩ := node
  have hkey : (keyFindings place).filter (fun found => !decide found.WithinData)
      = keyFindings place := by
    refine List.filter_eq_self.mpr fun found hfound => ?_
    have hnot : ¬ found.WithinData := by
      rintro ⟨_, _, rfl, -⟩
      cases (mem_keyFindings_iff.mp hfound).1
    rw [decide_eq_false hnot, Bool.not_false]
  have hpath : pathFindings false place v
      = (pathFindings true place v).filter fun found => !decide found.WithinData := by
    by_cases hvis : place.Visited
    · -- in a visited place both find the same, and keep it
      rw [pathFindings_of_scanned (Or.inl hvis), pathFindings_of_scanned (Or.inl hvis), eq_comm]
      refine List.filter_eq_self.mpr fun found hfound => ?_
      have hnot : ¬ found.WithinData := by
        rw [← @pathFindings_of_scanned false place (Or.inl hvis), mem_pathFindings_iff] at hfound
        obtain ⟨s, -, rfl, -⟩ := hfound
        rintro ⟨_, _, heq, hstep⟩
        obtain ⟨rfl, -⟩ := Violation.pathLike.inj heq
        exact (not_visited_iff place).mpr hstep hvis
      rw [decide_eq_false hnot, Bool.not_false]
    · -- below the caller's data nothing is found without a scan, and nothing is kept
      have hnone : pathFindings false place v = [] := by
        refine List.eq_nil_iff_forall_not_mem.mpr fun found hfound => ?_
        obtain ⟨-, -, -, -, hscanned⟩ := mem_pathFindings_iff.mp hfound
        rcases hscanned with hvisited | hscan
        · exact hvis hvisited
        · cases hscan
      rw [hnone, eq_comm, List.filter_eq_nil_iff]
      intro found hfound
      obtain ⟨s, -, rfl, -⟩ := mem_pathFindings_iff.mp hfound
      have hwithin : Violation.WithinData (.pathLike place s) :=
        ⟨place, s, rfl, (not_visited_iff place).mp hvis⟩
      rw [decide_eq_true hwithin]
      decide
  rw [findings, findings, List.filter_append, hkey, hpath]

/-- **A scan adds** path-like texts within the caller's data. -/
theorem violations_eq_filter (request : Json) :
    violations false request
      = (violations true request).filter fun found => !decide found.WithinData := by
  have hstructure : (structureViolations request).filter (fun found => !decide found.WithinData)
      = structureViolations request := by
    refine List.filter_eq_self.mpr fun found hfound => ?_
    have hnot : ¬ found.WithinData := by
      rintro ⟨place, s, rfl, -⟩
      exact (structural_of_mem hfound place).1 s rfl
    rw [decide_eq_false hnot, Bool.not_false]
  rw [violations, violations, List.filter_append, hstructure, walk_eq_findings _ (by simp),
    walk_eq_findings _ (by simp), List.filter_flatMap]
  refine congrArg (· ++ _) (List.flatMap_congr fun node _ => ?_)
  exact findings_eq_filter node

/-! ### Other keys -/

/-- Two violations that are the same, or that report one text at two places. -/
inductive SameReport : Violation → Violation → Prop
  | same (found : Violation) : SameReport found found
  | text (place place' : Location) (s : Text) :
      SameReport (.pathLike place s) (.pathLike place' s)

theorem pathViolations_of_renamedKeys {v w : Json} (h : RenamedKeys v w) (place place' : Location) :
    List.Forall₂ SameReport (pathViolations place v) (pathViolations place' w) := by
  cases h with
  | arr | obj => exact .nil
  | same =>
    cases v with
    | str s =>
      rw [pathViolations, pathViolations]
      split
      · exact .cons (.text place place' s) .nil
      · exact .nil
    | null | bool | int | float | arr | obj => exact .nil

/-- The children of renamed trees are renamed, at steps that may differ. -/
theorem children_of_renamedKeys {v w : Json} (h : RenamedKeys v w) :
    List.Forall₂ (fun c d => RenamedKeys c.2 d.2) v.children w.children := by
  cases h with
  | same => exact List.forall₂_same.mpr fun child _ => .same child.2
  | arr hitems =>
    rw [children, children, List.forall₂_map_left_iff, List.forall₂_map_right_iff]
    exact (forall₂_zipIdx hitems 0).imp fun _ _ hitem => hitem.2
  | obj hvalues =>
    rw [List.forall₂_map_left_iff, List.forall₂_map_right_iff] at hvalues
    rw [children, children, List.forall₂_map_left_iff, List.forall₂_map_right_iff]
    exact hvalues

/-- The scan reports the same texts, whatever the keys. -/
theorem scanBelow_of_renamedKeys {v w : Json} (h : RenamedKeys v w) (place place' : Location) :
    List.Forall₂ SameReport (scanBelow place v) (scanBelow place' w) := by
  induction v using induction_children generalizing w place place' with
  | node v ih =>
    rw [scanBelow_eq_flatMap, scanBelow_eq_flatMap]
    refine List.rel_flatMap (forall₂_mem (children_of_renamedKeys h)) ?_
    rintro ⟨step, x⟩ ⟨step', y⟩ ⟨hchild, hxy⟩
    exact List.rel_append (pathViolations_of_renamedKeys hxy _ _) (ih (step, x) hchild hxy _ _)

/-- **The keys within the caller's data** are of no matter, also in a scan. -/
theorem violations_of_renamedKeys {v w : Json} (h : OutsideData RenamedKeys v w) (scan : Bool) :
    List.Forall₂ SameReport (violations scan v) (violations scan w) := by
  have hdata : ∀ place v w, RenamedKeys v w →
      List.Forall₂ SameReport (dataViolations scan place v) (dataViolations scan place w) := by
    intro place v w hvw
    refine List.rel_append (pathViolations_of_renamedKeys hvw place place) ?_
    cases scan with
    | true => exact scanBelow_of_renamedKeys hvw place place
    | false => exact .nil
  have hwalk := walk_of_outsideData .same hdata h []
  rw [violations, violations, (sharesStructure_outsideData _).structureViolations_eq h]
  exact List.rel_append hwalk (List.forall₂_same.mpr fun found _ => .same found)

end Validation

/-- **The caller's data is out of reach** of a validation that does not scan it, and a scan looks at
its texts only. -/
theorem violations_barrier :
    (∀ v w, Json.OutsideData Json.Exchangeable v w → violations false v = violations false w) ∧
      (∀ request, violations false request
          = (violations true request).filter fun found => !decide found.WithinData) ∧
        (∀ request, violations true request = [] → violations false request = []) ∧
          ∀ v w, Json.OutsideData Json.RenamedKeys v w →
            (violations true v).length = (violations true w).length ∧
              (violations true v = [] ↔ violations true w = []) := by
  refine ⟨fun v w h => Validation.violations_of_exchanged h, Validation.violations_eq_filter,
    fun request h => ?_, fun v w h => ?_⟩
  · rw [Validation.violations_eq_filter, h, List.filter_nil]
  · have hlength := (Validation.violations_of_renamedKeys h true).length_eq
    refine ⟨hlength, ?_⟩
    rw [← List.length_eq_zero_iff, ← List.length_eq_zero_iff, hlength]

/-- A request with the caller's data in two places, one of which it should not be in, and a path
outside of it. -/
def dataRequest (header rows : Json) : Json :=
  .obj [("workbook", .obj [("name", .str "q/r"), ("header", header),
    ("sheets", .arr [.obj [("name", .str "a"), ("dados", rows)]])])]

theorem Json.outsideData_dataRequest {D : Json → Json → Prop} {header header' rows rows' : Json}
    (hheader : D header header') (hrows : D rows rows') :
    OutsideData D (dataRequest header rows) (dataRequest header' rows') := by
  have hsheet : OutsideData D (.obj [("name", .str "a"), ("dados", rows)])
      (.obj [("name", .str "a"), ("dados", rows')]) :=
    .obj (.cons (.other rfl (.same _)) (.cons (.data rfl hrows) .nil))
  exact .obj (.cons (.other rfl (.obj (.cons (.other rfl (.same _)) (.cons (.data rfl hheader)
    (.cons (.other rfl (.arr (.cons hsheet .nil))) .nil))))) .nil)

theorem violations_barrier_dataRequest :
    violations false (dataRequest .null (.arr [.str "C:\\x"]))
        = violations false (dataRequest (.arr []) (.int 1)) ∧
      (violations true (dataRequest .null (.obj [("a", .str "x/y"), ("odd", .null)]))).length
        = (violations true
            (dataRequest .null (.obj [("rows", .str "x/y"), ("b", .null)]))).length := by
  have hheader : Json.Exchangeable .null (.arr []) :=
    Or.inr ⟨fun s h => (by cases h), fun s h => (by cases h)⟩
  have hrows : Json.Exchangeable (.arr [.str "C:\\x"]) (.int 1) :=
    Or.inr ⟨fun s h => (by cases h), fun s h => (by cases h)⟩
  have hkeys : Json.RenamedKeys (.obj [("a", .str "x/y"), ("odd", .null)])
      (.obj [("rows", .str "x/y"), ("b", .null)]) :=
    .obj (.cons (.same _) (.cons (.same _) .nil))
  obtain ⟨hexchange, -, -, hrename⟩ := violations_barrier
  exact ⟨hexchange _ _ (Json.outsideData_dataRequest hheader hrows),
    (hrename _ _ (Json.outsideData_dataRequest (.same .null) hkeys)).1⟩

end Gridwork
