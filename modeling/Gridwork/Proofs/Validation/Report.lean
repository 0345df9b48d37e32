import Gridwork.Proofs.Json.Node
import Gridwork.Validation
import Mathlib.Data.List.Infix

/-!
# What validation reports

The violations of a request are told apart by *places*: a node is **visited** if the way to it does
not lead through the caller's own data, that is, below an entry keyed `header`, `rows` or one of
their older names (`Location.Visited`). Such an entry itself is visited.

`Validation.findings` says, node by node, what there is to report about a node:

* a path-like text, if the node is visited or the caller's data is to be scanned;
* a key outside the vocabulary, if the node is visited and its key opens no data of the caller.

The two walks of the validator look at a node from the node above it and differ from each other.
They are brought to the one listing `Json.descendants`: `walk_eq_findings` at visited places,
`scan_eq_findings` below the caller's data. The rest reads the result off that listing: no node is
passed over and none is reported twice for the same reason (`report`).
-/

namespace Gridwork

/-! ### Places -/

/-- Whether a step leads to an entry that holds the caller's own data. -/
def Step.opensData : Step → Bool
  | .key k => Field.isBusinessData k
  | .index _ => false

/-- A place is visited if no step before its last one opens the caller's own data. -/
def Location.Visited (place : Location) : Prop := ∀ step ∈ place.tail, step.opensData = false

instance (place : Location) : Decidable place.Visited :=
  inferInstanceAs (Decidable (∀ step ∈ place.tail, step.opensData = false))

/-- Every place that goes on from the caller's data is not visited. -/
theorem Location.not_visited_append {place : Location} (h : ∃ step ∈ place, step.opensData = true)
    {inner : Location} (hne : inner ≠ []) : ¬ (inner ++ place).Visited := by
  obtain ⟨step, hs, hopen⟩ := h
  obtain ⟨last, rest, rfl⟩ := List.exists_cons_of_ne_nil hne
  intro hv
  -- the step that opens the data is not the last one
  have hclosed := hv step (by simpa using Or.inr hs)
  rw [hopen] at hclosed
  cases hclosed

namespace Validation

/-! ### Path-like texts -/

/-- The marks of a file path. -/
def pathMarks : List Text := ["/", "\\", "..:"]

/-- A text is path-like if it holds one of the marks of a file path. -/
def PathLike (s : Text) : Prop := ∃ mark ∈ pathMarks, mark.toList <:+: s.toList

theorem containsPathChars_iff (cs : List CodePoint) :
    containsPathChars cs = true ↔ ∃ mark ∈ pathMarks, mark.toList <:+: cs := by
  -- the cases are those of the scan: the end, one for each mark, and any other character
  fun_induction containsPathChars cs with
  | case1 => simp [pathMarks]
  | case2 rest => simp [pathMarks, List.infix_cons_iff]
  | case3 rest => simp [pathMarks, List.infix_cons_iff]
  | case4 rest => simp [pathMarks, List.infix_cons_iff]
  | case5 c rest hslash hback hdots ih =>
    -- no mark begins at `c`, so a mark lies in the rest
    have hmark : ∀ mark ∈ pathMarks, ¬ mark.toList <+: c :: rest := by
      intro mark hm hprefix
      simp only [pathMarks, List.mem_cons, List.not_mem_nil, or_false] at hm
      rcases hm with rfl | rfl | rfl
      · exact hslash (List.cons_prefix_cons.mp hprefix).1.symm
      · exact hback (List.cons_prefix_cons.mp hprefix).1.symm
      · obtain ⟨rfl, tail, htail⟩ := List.cons_prefix_cons.mp hprefix
        exact hdots tail rfl htail.symm
    rw [ih]
    constructor
    · rintro ⟨mark, hm, hin⟩
      exact ⟨mark, hm, List.infix_cons_iff.mpr (Or.inr hin)⟩
    · rintro ⟨mark, hm, hin⟩
      exact ⟨mark, hm, (List.infix_cons_iff.mp hin).resolve_left (hmark mark hm)⟩

theorem containsPath_iff (s : Text) : containsPath s = true ↔ PathLike s :=
  containsPathChars_iff s.toList

instance (s : Text) : Decidable (PathLike s) := decidable_of_iff _ (containsPath_iff s)

example : PathLike "C..:x" ∧ ¬ PathLike "..x:" := by decide

/-! ### Findings -/

/-- What there is to report about the text of a node. -/
def pathFindings (scan : Bool) (place : Location) : Json → List Violation
  | .str s => if PathLike s ∧ (place.Visited ∨ scan = true) then [.pathLike place s] else []
  | _ => []

/-- What there is to report about the key of a node. -/
def keyFindings : Location → List Violation
  | .key k :: outer =>
    if (Location.Visited (.key k :: outer)) ∧ Field.isBusinessData k = false
        ∧ Field.isAllowed k = false then [.notAllowed (.key k :: outer)]
    else []
  | _ => []

/-- What there is to report about a node. -/
def findings (scan : Bool) (node : Location × Json) : List Violation :=
  pathFindings scan node.1 node.2 ++ keyFindings node.1

theorem pathFindings_of_scanned {scan : Bool} {place : Location}
    (h : place.Visited ∨ scan = true) (v : Json) :
    pathFindings scan place v = pathViolations place v := by
  cases v with
  | str s => simp [pathFindings, pathViolations, h, containsPath_iff]
  | null | bool | int | float | arr | obj => rfl

/-- Below the caller's data there is nothing to report but path-like texts, and these only if the
data is scanned. -/
theorem findings_of_not_visited {scan : Bool} {place : Location} (h : ¬ place.Visited) (v : Json) :
    findings scan (place, v) = if scan then pathViolations place v else [] := by
  -- a key is looked at in visited places only
  have hkey : keyFindings place = [] := by
    cases place with
    | nil => rfl
    | cons step outer =>
      cases step with
      | key k => exact if_neg fun hf => h hf.1
      | index i => rfl
  cases scan with
  | true => simp [findings, hkey, pathFindings_of_scanned]
  | false =>
    cases v with
    | str s => simp [findings, hkey, pathFindings, h]
    | null | bool | int | float | arr | obj => simp [findings, hkey, pathFindings]

/-! ### The walks, told by steps -/

theorem scanBelow_eq_flatMap (place : Location) (v : Json) :
    scanBelow place v = v.children.flatMap fun child =>
      pathViolations (child.1 :: place) child.2 ++ scanBelow (child.1 :: place) child.2 := by
  cases v with
  | null | bool | int | float | str => simp [scanBelow, Json.children]
  | arr items =>
    rw [scanBelow]
    refine Json.eq_flatMap_children_arr (fun i => ?_) (fun i v rest => ?_) items
    · rw [scanItems]
    · rw [scanItems]
  | obj entries =>
    rw [scanBelow]
    refine Json.eq_flatMap_children_obj ?_ (fun k v rest => ?_) entries
    · rw [scanEntries]
    · rw [scanEntries]

/-- What the walk does at one child: below an entry that opens the caller's data it goes on only as
a scan. -/
def walkChild (scan : Bool) (place : Location) (child : Step × Json) : List Violation :=
  pathViolations (child.1 :: place) child.2
    ++ (if child.1.opensData then (if scan then scanBelow (child.1 :: place) child.2 else [])
      else (match child.1 with
        | .key k => if Field.isAllowed k then [] else [.notAllowed (child.1 :: place)]
        | .index _ => []) ++ walk scan (child.1 :: place) child.2)

theorem walk_eq_flatMap (scan : Bool) (place : Location) (v : Json) :
    walk scan place v = v.children.flatMap (walkChild scan place) := by
  cases v with
  | null | bool | int | float | str => simp [walk, Json.children]
  | arr items =>
    rw [walk]
    refine Json.eq_flatMap_children_arr (fun i => ?_) (fun i v rest => ?_) items
    · rw [walkItems]
    · -- an index opens no data and is no key
      simp [walkItems, walkChild, Step.opensData]
  | obj entries =>
    rw [walk]
    refine Json.eq_flatMap_children_obj ?_ (fun k v rest => ?_) entries
    · rw [walkEntries]
    · simp [walkEntries, walkChild, Step.opensData]

/-! ### The walks, told by places -/

/-- The scan reports every path-like text below a node. -/
theorem scanBelow_eq_descendants (place : Location) (v : Json) :
    scanBelow place v =
      (v.descendants place).flatMap fun node => pathViolations node.1 node.2 := by
  induction v using Json.induction_children generalizing place with
  | node v ih =>
    rw [scanBelow_eq_flatMap, Json.descendants_eq_flatMap, List.flatMap_assoc]
    refine List.flatMap_congr fun child hc => ?_
    rw [ih child hc, List.flatMap_cons]

/-- **The scan.** Below a place in the caller's data the findings are those of the scan, if there is
one. -/
theorem scan_eq_findings {place : Location} (h : ∃ step ∈ place, step.opensData = true)
    (scan : Bool) (v : Json) :
    (v.descendants place).flatMap (findings scan) = if scan then scanBelow place v else [] := by
  -- every node below goes on from `place`, so it is not visited
  have hbelow : ∀ node ∈ v.descendants place,
      findings scan node = if scan then pathViolations node.1 node.2 else [] := by
    rintro ⟨q, w⟩ hq
    obtain ⟨inner, hne, rfl⟩ := Json.exists_append_of_mem_descendants hq
    exact findings_of_not_visited (Location.not_visited_append h hne) w
  rw [List.flatMap_congr hbelow]
  cases scan with
  | true => simp [scanBelow_eq_descendants]
  | false => simp

/-- **The walk.** Below a place outside the caller's data the findings are those of the walk. -/
theorem walk_eq_findings (scan : Bool) {place : Location}
    (h : ∀ step ∈ place, step.opensData = false) (v : Json) :
    walk scan place v = (v.descendants place).flatMap (findings scan) := by
  induction v using Json.induction_children generalizing place with
  | node v ih =>
    rw [walk_eq_flatMap, Json.descendants_eq_flatMap, List.flatMap_assoc]
    refine List.flatMap_congr fun child hc => ?_
    obtain ⟨step, w⟩ := child
    -- the child is visited, since its last step may be of any kind
    have hvisited : Location.Visited (step :: place) := h
    rw [List.flatMap_cons]
    change walkChild scan place (step, w) =
      (pathFindings scan (step :: place) w ++ keyFindings (step :: place)) ++ _
    rw [pathFindings_of_scanned (Or.inl hvisited), walkChild, List.append_assoc]
    congr 1
    by_cases hopen : step.opensData = true
    · -- the child opens the caller's data: its key is not looked at, what follows is a scan
      have hkey : keyFindings (step :: place) = [] := by
        cases step with
        | key k => exact if_neg fun hf => by simp [Step.opensData, hf.2.1] at hopen
        | index i => rfl
      rw [if_pos hopen, hkey, List.nil_append,
        scan_eq_findings ⟨step, List.mem_cons_self, hopen⟩]
    · -- the walk goes on below the child
      have hclosed : step.opensData = false := by simpa using hopen
      rw [if_neg hopen, ih (step, w) hc (List.forall_mem_cons.mpr ⟨hclosed, h⟩)]
      congr 1
      -- what is left is the key of the child
      cases step with
      | key k =>
        have hk : Field.isBusinessData k = false := hclosed
        cases ha : Field.isAllowed k with
        | true => simp [keyFindings, ha]
        | false => simp [keyFindings, ha, hk, hvisited]
      | index i => rfl

/-! ### Nothing twice, nothing missed -/

theorem mem_pathFindings_iff {scan : Bool} {place : Location} {v : Json} {found : Violation} :
    found ∈ pathFindings scan place v ↔
      ∃ s, v = .str s ∧ found = .pathLike place s ∧ PathLike s ∧ (place.Visited ∨ scan = true) := by
  cases v with
  | str s =>
    by_cases h : PathLike s ∧ (place.Visited ∨ scan = true)
    · simp [pathFindings, h]
    · simp only [pathFindings, if_neg h, List.not_mem_nil, Json.str.injEq, false_iff]
      rintro ⟨t, rfl, -, hp⟩
      exact h hp
  | null | bool | int | float | arr | obj => simp [pathFindings]

theorem mem_keyFindings_iff {place : Location} {found : Violation} :
    found ∈ keyFindings place ↔
      found = .notAllowed place ∧ place.Visited ∧
        ∃ k outer, place = .key k :: outer ∧ Field.isBusinessData k = false
          ∧ Field.isAllowed k = false := by
  match place with
  | [] => simp [keyFindings]
  | .index i :: outer => simp [keyFindings]
  | .key k :: outer =>
    by_cases h : Location.Visited (.key k :: outer) ∧ Field.isBusinessData k = false
        ∧ Field.isAllowed k = false
    · simp [keyFindings, h]
    · simp only [keyFindings, if_neg h, List.not_mem_nil, List.cons.injEq, Step.key.injEq,
        false_iff]
      rintro ⟨-, hv, l, rest, ⟨rfl, rfl⟩, hk⟩
      exact h ⟨hv, hk⟩

/-- What is found about a node is reported for its place. -/
theorem place_of_mem_findings {scan : Bool} {node : Location × Json} {found : Violation}
    (h : found ∈ findings scan node) :
    (∃ s, found = .pathLike node.1 s) ∨ found = .notAllowed node.1 := by
  rcases List.mem_append.mp h with h | h
  · obtain ⟨s, -, rfl, -⟩ := mem_pathFindings_iff.mp h
    exact Or.inl ⟨s, rfl⟩
  · exact Or.inr (mem_keyFindings_iff.mp h).1

theorem nodup_findings (scan : Bool) (node : Location × Json) : (findings scan node).Nodup := by
  have hpath : (pathFindings scan node.1 node.2).Nodup := by
    cases node.2 with
    | str s =>
      rw [pathFindings]
      split
      · exact List.nodup_singleton _
      · exact List.nodup_nil
    | null | bool | int | float | arr | obj => simp [pathFindings]
  have hkey : (keyFindings node.1).Nodup := by
    match node.1 with
    | [] => simp [keyFindings]
    | .index i :: outer => simp [keyFindings]
    | .key k :: outer =>
      rw [keyFindings]
      split
      · exact List.nodup_singleton _
      · exact List.nodup_nil
  -- a text and a key are never reported for the same reason
  refine List.nodup_append.mpr ⟨hpath, hkey, ?_⟩
  rintro a ha b hb rfl
  obtain ⟨s, -, rfl, -⟩ := mem_pathFindings_iff.mp ha
  cases (mem_keyFindings_iff.mp hb).1

/-- A place is reported once for each of the two reasons at most. -/
theorem nodup_flatMap_findings (scan : Bool) {v : Json} (hv : v.WellFormed) :
    ((v.descendants []).flatMap (findings scan)).Nodup := by
  rw [List.nodup_flatMap]
  refine ⟨fun node _ => nodup_findings scan node, ?_⟩
  -- a violation names its place, so one that is found at two nodes gives them the same location
  refine (List.pairwise_map.mp (Json.nodup_descendants hv [])).imp fun {a b} hab found ha hb => ?_
  refine hab ?_
  rcases place_of_mem_findings ha with ⟨s, rfl⟩ | rfl <;>
    rcases place_of_mem_findings hb with ⟨t, heq⟩ | heq
  · exact (Violation.pathLike.inj heq).1
  · cases heq
  · cases heq
  · exact Violation.notAllowed.inj heq

/-! ### Structure -/

/-- The structure that every workbook description has. -/
def HasStructure (request : Json) : Prop :=
  ∃ root workbook first rest name sheetName,
    request = .obj root
      ∧ Json.Entries.get? root Field.workbook = some (.obj workbook)
      ∧ Json.Entries.field workbook Field.name = .str name
      ∧ Json.Entries.field workbook Field.sheets = .arr (.obj first :: rest)
      ∧ Json.Entries.field first Field.name = .str sheetName

theorem hasText_iff (entries : Json.Entries) (field : Text) :
    hasText entries field = true ↔ ∃ s, entries.field field = .str s := by
  unfold hasText
  cases entries.field field <;> simp

theorem sheetsViolations_eq_nil_iff (v : Json) :
    sheetsViolations v = [] ↔
      ∃ first rest sheetName, v = .arr (.obj first :: rest)
        ∧ Json.Entries.field first Field.name = .str sheetName := by
  match v with
  | .arr (.obj first :: rest) =>
    by_cases h : hasText first Field.name = true
    · obtain ⟨s, hs⟩ := (hasText_iff first Field.name).mp h
      simp [sheetsViolations, firstSheetViolations, h, hs]
    · have hno : ∀ s, Json.Entries.field first Field.name ≠ .str s :=
        fun s hs => h ((hasText_iff first Field.name).mpr ⟨s, hs⟩)
      simp [sheetsViolations, firstSheetViolations, h, hno]
  | .arr [] | .arr (.null :: _) | .arr (.bool _ :: _) | .arr (.int _ :: _) | .arr (.float _ :: _)
  | .arr (.str _ :: _) | .arr (.arr _ :: _) =>
    simp [sheetsViolations, firstSheetViolations]
  | .null | .bool _ | .int _ | .float _ | .str _ | .obj _ => simp [sheetsViolations]

theorem structureViolations_eq_nil_iff (request : Json) :
    structureViolations request = [] ↔ HasStructure request := by
  unfold HasStructure
  match request with
  | .obj root =>
    rw [structureViolations]
    split
    -- no workbook, or null in its place
    case h_1 h => simp [h]
    case h_2 h => simp [h]
    case h_3 workbook h =>
      rw [List.append_eq_nil_iff, sheetsViolations_eq_nil_iff]
      by_cases ht : hasText workbook Field.name = true
      · obtain ⟨name, hname⟩ := (hasText_iff workbook Field.name).mp ht
        simp [h, ht, hname]
      · have hno : ∀ s, Json.Entries.field workbook Field.name ≠ .str s :=
          fun s hs => ht ((hasText_iff workbook Field.name).mpr ⟨s, hs⟩)
        simp [h, ht, hno]
    case h_4 other hnull hobj h =>
      simp only [List.cons_ne_nil, false_iff]
      rintro ⟨_, workbook, _, _, _, _, heq, hget, -⟩
      obtain rfl := Json.obj.inj heq
      rw [h] at hget
      exact hobj workbook (Option.some.inj hget)
  | .null | .bool _ | .int _ | .float _ | .str _ | .arr _ => simp [structureViolations]

/-- No structural violation is reported for a place. -/
theorem structural_of_mem {request : Json} {found : Violation}
    (h : found ∈ structureViolations request) (place : Location) :
    (∀ s, found ≠ .pathLike place s) ∧ found ≠ .notAllowed place := by
  have hfirst : ∀ {v : Json}, found ∈ firstSheetViolations v →
      (∀ s, found ≠ .pathLike place s) ∧ found ≠ .notAllowed place := by
    intro v hv
    unfold firstSheetViolations at hv
    split at hv
    · split at hv <;> simp_all
    · simp_all
  have hsheets : ∀ {v : Json}, found ∈ sheetsViolations v →
      (∀ s, found ≠ .pathLike place s) ∧ found ≠ .notAllowed place := by
    intro v hv
    unfold sheetsViolations at hv
    split at hv
    case h_3 => exact hfirst hv
    all_goals simp_all
  unfold structureViolations at h
  split at h
  · split at h
    case h_3 =>
      rcases List.mem_append.mp h with h | h
      · split at h <;> simp_all
      · exact hsheets h
    all_goals simp_all
  · simp_all

theorem nodup_structureViolations (request : Json) : (structureViolations request).Nodup := by
  -- the sheets give one violation at most, and never that of the workbook's name
  have hsheets : ∀ v, sheetsViolations v = [] ∨ ∃ found, sheetsViolations v = [found]
      ∧ found ≠ .missingOrNotText (Field.workbook ++ "." ++ Field.name) := by
    intro v
    match v with
    | .arr (.obj first :: rest) =>
      rw [sheetsViolations, firstSheetViolations]
      split
      · exact Or.inl rfl
      · exact Or.inr ⟨_, rfl, by decide⟩
    | .arr [] | .arr (.null :: _) | .arr (.bool _ :: _) | .arr (.int _ :: _)
    | .arr (.float _ :: _) | .arr (.str _ :: _) | .arr (.arr _ :: _) =>
      exact Or.inr ⟨_, rfl, by decide⟩
    | .null | .bool _ | .int _ | .float _ | .str _ | .obj _ =>
      exact Or.inr ⟨_, rfl, by decide⟩
  unfold structureViolations
  split
  · split
    case h_3 workbook _ =>
      rcases hsheets (Json.Entries.field workbook Field.sheets) with h | ⟨found, h, hne⟩
      · rw [h]
        split <;> simp
      · rw [h]
        split
        · simp
        · simpa using hne.symm
    all_goals exact List.nodup_singleton _
  · exact List.nodup_singleton _

/-! ### The report -/

/-- What a list of violations says about a request if it reports exactly what there is to report. -/
structure Report (scan : Bool) (request : Json) (found : List Violation) : Prop where
  /-- The findings of all nodes stand in document order, and behind them what the request lacks of
  its structure. -/
  listing : found =
    (request.descendants []).flatMap (findings scan) ++ structureViolations request
  /-- Nothing is reported twice. -/
  once : found.Nodup
  /-- Path-like texts are reported at all visited places and, with a scan, at all others too. -/
  path_iff : ∀ (place : Location) s, .pathLike place s ∈ found ↔
    place ≠ [] ∧ request.at? place = some (.str s) ∧ PathLike s ∧ (place.Visited ∨ scan = true)
  /-- Keys outside the vocabulary are reported at visited places only, unless they open the
  caller's data. -/
  key_iff : ∀ (place : Location), .notAllowed place ∈ found ↔
    ∃ k outer v, place = .key k :: outer ∧ request.at? place = some v ∧ place.Visited
      ∧ Field.isBusinessData k = false ∧ Field.isAllowed k = false
  /-- Nothing is reported exactly if there is nothing of that kind and the structure is there. -/
  valid_iff : found = [] ↔
    (∀ (place : Location) s, place ≠ [] → request.at? place = some (.str s) →
        place.Visited ∨ scan = true → ¬ PathLike s)
      ∧ (∀ k outer v, request.at? (.key k :: outer) = some v →
        Location.Visited (.key k :: outer) →
          Field.isBusinessData k = true ∨ Field.isAllowed k = true)
      ∧ HasStructure request

section Request

variable {scan : Bool} {request : Json} (h : request.WellFormed)
include h

theorem mem_pathLike_iff (place : Location) (s : Text) :
    .pathLike place s ∈ violations scan request ↔
      place ≠ [] ∧ request.at? place = some (.str s) ∧ PathLike s
        ∧ (place.Visited ∨ scan = true) := by
  rw [violations, walk_eq_findings scan (by simp), List.mem_append, List.mem_flatMap]
  constructor
  · rintro (⟨⟨q, v⟩, hq, hf⟩ | hs)
    · obtain ⟨hne, hat⟩ := (Json.mem_descendants_iff h).mp hq
      rcases List.mem_append.mp hf with hf | hf
      · obtain ⟨t, rfl, heq, hpath, hvis⟩ := mem_pathFindings_iff.mp hf
        obtain ⟨rfl, rfl⟩ := Violation.pathLike.inj heq
        exact ⟨hne, hat, hpath, hvis⟩
      · cases (mem_keyFindings_iff.mp hf).1
    · exact absurd rfl ((structural_of_mem hs place).1 s)
  · rintro ⟨hne, hat, hpath, hvis⟩
    refine Or.inl ⟨(place, .str s), (Json.mem_descendants_iff h).mpr ⟨hne, hat⟩, ?_⟩
    exact List.mem_append_left _ (mem_pathFindings_iff.mpr ⟨s, rfl, rfl, hpath, hvis⟩)

theorem mem_notAllowed_iff (place : Location) :
    .notAllowed place ∈ violations scan request ↔
      ∃ k outer v, place = .key k :: outer ∧ request.at? place = some v ∧ place.Visited
        ∧ Field.isBusinessData k = false ∧ Field.isAllowed k = false := by
  rw [violations, walk_eq_findings scan (by simp), List.mem_append, List.mem_flatMap]
  constructor
  · rintro (⟨⟨q, v⟩, hq, hf⟩ | hs)
    · obtain ⟨-, hat⟩ := (Json.mem_descendants_iff h).mp hq
      rcases List.mem_append.mp hf with hf | hf
      · obtain ⟨t, -, heq, -⟩ := mem_pathFindings_iff.mp hf
        cases heq
      · obtain ⟨heq, hvis, k, outer, hplace, hk⟩ := mem_keyFindings_iff.mp hf
        obtain rfl := Violation.notAllowed.inj heq
        exact ⟨k, outer, v, hplace, hat, hvis, hk⟩
    · exact absurd rfl (structural_of_mem hs place).2
  · rintro ⟨k, outer, v, rfl, hat, hvis, hk⟩
    refine Or.inl ⟨(.key k :: outer, v), (Json.mem_descendants_iff h).mpr ⟨by simp, hat⟩, ?_⟩
    exact List.mem_append_right _ (mem_keyFindings_iff.mpr ⟨rfl, hvis, k, outer, rfl, hk⟩)

omit h in
/-- Every violation is one of the two kinds that are reported for a place, or a structural one. -/
theorem violation_cases {found : Violation} (hf : found ∈ violations scan request) :
    (∃ place s, found = .pathLike place s) ∨ (∃ place, found = .notAllowed place)
      ∨ found ∈ structureViolations request := by
  rw [violations, walk_eq_findings scan (by simp), List.mem_append, List.mem_flatMap] at hf
  rcases hf with ⟨node, -, hf⟩ | hf
  · rcases place_of_mem_findings hf with ⟨s, rfl⟩ | rfl
    · exact Or.inl ⟨_, s, rfl⟩
    · exact Or.inr (Or.inl ⟨_, rfl⟩)
  · exact Or.inr (Or.inr hf)

theorem violations_eq_nil_iff :
    violations scan request = [] ↔
      (∀ (place : Location) s, place ≠ [] → request.at? place = some (.str s) →
          place.Visited ∨ scan = true → ¬ PathLike s)
        ∧ (∀ k outer v, request.at? (.key k :: outer) = some v →
          Location.Visited (.key k :: outer) →
            Field.isBusinessData k = true ∨ Field.isAllowed k = true)
        ∧ HasStructure request := by
  constructor
  · -- each of the three conditions fails only with a violation of its kind
    intro hnil
    have hnone : ∀ found, found ∉ violations scan request := by simp [hnil]
    refine ⟨?_, ?_, ?_⟩
    · intro place s hne hat hvis hpath
      exact hnone _ ((mem_pathLike_iff h place s).mpr ⟨hne, hat, hpath, hvis⟩)
    · intro k outer v hat hvis
      by_contra hno
      rw [not_or, Bool.not_eq_true, Bool.not_eq_true] at hno
      exact hnone _ ((mem_notAllowed_iff h _).mpr ⟨k, outer, v, rfl, hat, hvis, hno⟩)
    · rw [← structureViolations_eq_nil_iff]
      exact (List.append_eq_nil_iff.mp hnil).2
  · -- a violation is of one of the three kinds, each of which is excluded
    rintro ⟨hpath, hkey, hstructure⟩
    refine List.eq_nil_iff_forall_not_mem.mpr fun found hf => ?_
    rcases violation_cases hf with ⟨place, s, rfl⟩ | ⟨place, rfl⟩ | hs
    · obtain ⟨hne, hat, hp, hvis⟩ := (mem_pathLike_iff h place s).mp hf
      exact hpath place s hne hat hvis hp
    · obtain ⟨k, outer, v, rfl, hat, hvis, hb, ha⟩ := (mem_notAllowed_iff h place).mp hf
      rcases hkey k outer v hat hvis with hk | hk
      · rw [hb] at hk
        cases hk
      · rw [ha] at hk
        cases hk
    · rw [(structureViolations_eq_nil_iff request).mpr hstructure] at hs
      cases hs

theorem nodup_violations : (violations scan request).Nodup := by
  rw [violations, walk_eq_findings scan (by simp)]
  refine List.nodup_append.mpr
    ⟨nodup_flatMap_findings scan h, nodup_structureViolations request, ?_⟩
  rintro found hf _ hs rfl
  obtain ⟨node, -, hf⟩ := List.mem_flatMap.mp hf
  rcases place_of_mem_findings hf with ⟨s, rfl⟩ | rfl
  · exact (structural_of_mem hs node.1).1 s rfl
  · exact (structural_of_mem hs node.1).2 rfl

end Request

/-- **Validation reports exactly the violations, each once**, whether or not the caller's data is
scanned. -/
theorem violations_report (scan : Bool) (request : Json) (h : request.WellFormed) :
    Report scan request (violations scan request) where
  listing := by rw [violations, walk_eq_findings scan (by simp)]
  once := nodup_violations h
  path_iff := mem_pathLike_iff h
  key_iff := mem_notAllowed_iff h
  valid_iff := violations_eq_nil_iff h

/-- A request with a path in a visited text, one in the caller's data and an unknown key. -/
def mixedRequest : Json :=
  .obj [("workbook", .obj [
    ("name", .str "q1/q2"),
    ("rows", .arr [.obj [("odd", .str "C..:")]]),
    ("odd", .null)])]

/-- The report of a request with all kinds of violations, in order. -/
theorem violations_report_mixed :
    mixedRequest.WellFormed ∧ Report true mixedRequest
      [.pathLike [.key "name", .key "workbook"] "q1/q2",
        .pathLike [.key "odd", .index 0, .key "rows", .key "workbook"] "C..:",
        .notAllowed [.key "odd", .key "workbook"],
        .missing "workbook.sheets"] := by
  have hwell : mixedRequest.WellFormed := by decide
  refine ⟨hwell, ?_⟩
  have h := violations_report true mixedRequest hwell
  have hfound : violations true mixedRequest =
      [.pathLike [.key "name", .key "workbook"] "q1/q2",
        .pathLike [.key "odd", .index 0, .key "rows", .key "workbook"] "C..:",
        .notAllowed [.key "odd", .key "workbook"],
        .missing "workbook.sheets"] := by decide +kernel
  rwa [hfound] at h

end Validation

end Gridwork
