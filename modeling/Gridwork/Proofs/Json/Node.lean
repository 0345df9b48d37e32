import Gridwork.Json.Value
import Gridwork.Validation.Location
import Mathlib.Data.List.Nodup

/-!
# The nodes of a tree

A `Location` names a node of a tree if the tree is *well formed*, that is, if no object of it
repeats a key (`Json.WellFormed`): the reader gives such trees only, and only in such a tree is an
entry found again under its key.

`Json.at?` follows a location down from the root. `Json.descendants` lists all nodes below the root
with their locations in **document order**: the members of an object or array in their own order,
each directly followed by what lies below it. The two agree:

* `mem_descendants_iff` — the listed pairs are the locations other than the root, each with its
  node;
* `nodup_descendants` — no location is listed twice.
-/

namespace Gridwork.Json

/-! ### Well-formed trees -/

mutual

/-- No object of the tree repeats a key. -/
def WellFormed : Json → Prop
  | .arr items => WellFormedItems items
  | .obj entries => Entries.Distinct entries ∧ WellFormedEntries entries
  | _ => True

/-- `WellFormed` for the members of an array. -/
def WellFormedItems : List Json → Prop
  | [] => True
  | v :: rest => v.WellFormed ∧ WellFormedItems rest

/-- `WellFormed` for the values of an object. -/
def WellFormedEntries : List (Text × Json) → Prop
  | [] => True
  | (_, v) :: rest => v.WellFormed ∧ WellFormedEntries rest

end

theorem wellFormedItems_iff (items : List Json) :
    WellFormedItems items ↔ ∀ v ∈ items, v.WellFormed := by
  induction items with
  | nil => simp [WellFormedItems]
  | cons v rest ih => simp [WellFormedItems, ih]

theorem wellFormedEntries_iff (entries : Entries) :
    WellFormedEntries entries ↔ ∀ entry ∈ entries, entry.2.WellFormed := by
  induction entries with
  | nil => simp [WellFormedEntries]
  | cons entry rest ih =>
    obtain ⟨k, v⟩ := entry
    simp [WellFormedEntries, ih]

theorem wellFormed_arr_iff (items : List Json) :
    (Json.arr items).WellFormed ↔ ∀ v ∈ items, v.WellFormed := by
  rw [WellFormed, wellFormedItems_iff]

theorem wellFormed_obj_iff (entries : Entries) :
    (Json.obj entries).WellFormed ↔
      entries.Distinct ∧ ∀ entry ∈ entries, entry.2.WellFormed := by
  rw [WellFormed, wellFormedEntries_iff]

mutual

/-- Well-formedness is decided along the tree. -/
def decideWellFormed : (v : Json) → Decidable v.WellFormed
  | .null | .bool _ | .int _ | .float _ | .str _ => isTrue (by rw [WellFormed] <;> simp)
  | .arr items =>
    have := decideWellFormedItems items
    decidable_of_iff (WellFormedItems items) (by rw [WellFormed])
  | .obj entries =>
    have := decideWellFormedEntries entries
    have : Decidable (Entries.Distinct entries) :=
      inferInstanceAs (Decidable (entries.map Prod.fst).Nodup)
    decidable_of_iff (Entries.Distinct entries ∧ WellFormedEntries entries) (by rw [WellFormed])

/-- `decideWellFormed` for the members of an array. -/
def decideWellFormedItems : (items : List Json) → Decidable (WellFormedItems items)
  | [] => isTrue (by rw [WellFormedItems]; trivial)
  | v :: rest =>
    have := decideWellFormed v
    have := decideWellFormedItems rest
    decidable_of_iff (v.WellFormed ∧ WellFormedItems rest) (by rw [WellFormedItems])

/-- `decideWellFormed` for the values of an object. -/
def decideWellFormedEntries :
    (entries : List (Text × Json)) → Decidable (WellFormedEntries entries)
  | [] => isTrue (by rw [WellFormedEntries]; trivial)
  | (_, v) :: rest =>
    have := decideWellFormed v
    have := decideWellFormedEntries rest
    decidable_of_iff (v.WellFormed ∧ WellFormedEntries rest) (by rw [WellFormedEntries])

end

instance : DecidablePred WellFormed := decideWellFormed

/-- With distinct keys an entry is found under its key. -/
theorem Entries.get?_eq_some_iff {entries : Entries} (h : entries.Distinct) {k : Text}
    {v : Json} : entries.get? k = some v ↔ (k, v) ∈ entries := by
  induction entries with
  | nil => simp [Entries.get?]
  | cons entry rest ih =>
    obtain ⟨l, w⟩ := entry
    -- the first key is not repeated, so no entry of the rest can have it
    have hd : l ∉ rest.map Prod.fst ∧ Entries.Distinct rest := List.nodup_cons.mp h
    have hl : ∀ u, (l, u) ∉ rest := fun u hu => hd.1 (List.mem_map_of_mem (f := Prod.fst) hu)
    by_cases hk : k = l
    · subst hk
      simp only [Entries.get?, List.lookup_cons_self, Option.some.injEq, List.mem_cons,
        Prod.mk.injEq, true_and, hl v, or_false]
      exact eq_comm
    · have hrest : Entries.get? ((l, w) :: rest) k = Entries.get? rest k := by
        simp [Entries.get?, List.lookup_cons, beq_eq_false_iff_ne.mpr hk]
      rw [hrest, ih hd.2]
      simp [hk]

/-! ### One step down -/

/-- The nodes one step below a node, in their own order. -/
def children : Json → List (Step × Json)
  | .obj entries => entries.map fun entry => (.key entry.1, entry.2)
  | .arr items => items.zipIdx.map fun item => (.index item.2, item.1)
  | _ => []

theorem mem_children_of_entry {entries : Entries} {entry : Text × Json} (h : entry ∈ entries) :
    (Step.key entry.1, entry.2) ∈ (obj entries).children :=
  List.mem_map_of_mem (f := fun e : Text × Json => (Step.key e.1, e.2)) h

theorem exists_mem_children_of_item {items : List Json} {item : Json} (h : item ∈ items) :
    ∃ i, (Step.index i, item) ∈ (arr items).children := by
  obtain ⟨i, hi⟩ := List.getElem?_of_mem h
  refine ⟨i, ?_⟩
  rw [children, List.mem_map]
  exact ⟨(item, i), List.mk_mem_zipIdx_iff_getElem?.mpr hi, rfl⟩

/-- The node that a step leads to. -/
def child? : Json → Step → Option Json
  | .obj entries, .key k => Entries.get? entries k
  | .arr items, .index i => items[i]?
  | _, _ => none

/-- **Induction along the steps**: what holds of a node whenever it holds one step below it holds of
every tree. -/
@[elab_as_elim]
theorem induction_children {motive : Json → Prop}
    (node : ∀ v, (∀ child ∈ v.children, motive child.2) → motive v) (v : Json) : motive v := by
  -- on the size, since the tree's own recursor asks for a motive for each kind of list in it
  suffices h : ∀ n v, sizeOf v < n → motive v from h _ v (Nat.lt_succ_self _)
  intro n
  induction n with
  | zero => intro v hv; exact absurd hv (Nat.not_lt_zero _)
  | succ n ih =>
    intro v hv
    refine node v fun child hc => ih child.2 ?_
    cases v with
    | null | bool | int | float | str => simp [children] at hc
    | arr items =>
      obtain ⟨item, hi, rfl⟩ := List.mem_map.mp hc
      have hlt := List.sizeOf_lt_of_mem (List.fst_mem_of_mem_zipIdx hi)
      simp only [Json.arr.sizeOf_spec] at hv
      change sizeOf item.1 < n
      omega
    | obj entries =>
      obtain ⟨entry, he, rfl⟩ := List.mem_map.mp hc
      have hlt := List.sizeOf_lt_of_mem he
      have hpair : sizeOf entry.2 < sizeOf entry := by
        rw [show sizeOf entry = 1 + sizeOf entry.1 + sizeOf entry.2 from Prod.mk.sizeOf_spec ..]
        omega
      simp only [Json.obj.sizeOf_spec] at hv
      change sizeOf entry.2 < n
      omega

theorem WellFormed.child {v : Json} (h : v.WellFormed) {child : Step × Json}
    (hc : child ∈ v.children) : child.2.WellFormed := by
  cases v with
  | null | bool | int | float | str => simp [children] at hc
  | arr items =>
    obtain ⟨item, hi, rfl⟩ := List.mem_map.mp hc
    exact (wellFormed_arr_iff items).mp h item.1 (List.fst_mem_of_mem_zipIdx hi)
  | obj entries =>
    obtain ⟨entry, he, rfl⟩ := List.mem_map.mp hc
    exact ((wellFormed_obj_iff entries).mp h).2 entry he

/-- The nodes one step below a well-formed node are those that its steps lead to. -/
theorem mem_children_iff {v : Json} (h : v.WellFormed) {s : Step} {w : Json} :
    (s, w) ∈ v.children ↔ v.child? s = some w := by
  cases v with
  | null | bool | int | float | str => simp [children, child?]
  | arr items =>
    cases s with
    | key k => simp [children, child?]
    | index i => simp [children, child?, List.mem_zipIdx_iff_getElem?]
  | obj entries =>
    cases s with
    | key k =>
      rw [child?, Entries.get?_eq_some_iff ((wellFormed_obj_iff entries).mp h).1]
      simp [children]
    | index i => simp [children, child?]

/-- No step leads to two nodes. -/
theorem nodup_children {v : Json} (h : v.WellFormed) : (v.children.map Prod.fst).Nodup := by
  cases v with
  | null | bool | int | float | str => simp [children]
  | arr items =>
    -- the steps are the indices, each of which occurs once
    have hsteps : (children (.arr items)).map Prod.fst
        = (items.zipIdx.map Prod.snd).map Step.index := by
      simp only [children, List.map_map]
      rfl
    rw [hsteps]
    have hindices : (items.zipIdx.map Prod.snd).Nodup := by
      rw [List.zipIdx_map_snd]
      exact List.nodup_range'
    exact hindices.map fun _ _ => Step.index.inj
  | obj entries =>
    -- the steps are the keys
    have hsteps : (children (.obj entries)).map Prod.fst = (entries.map Prod.fst).map Step.key := by
      simp only [children, List.map_map]
      rfl
    rw [hsteps]
    exact ((wellFormed_obj_iff entries).mp h).1.map fun _ _ => Step.key.inj

section FlatMap

variable {α : Type} {perChild : Step × Json → List α}

/-- A list made along an array, each member under its index, is made child by child. -/
theorem eq_flatMap_children_arr {along : Nat → List Json → List α} (hnil : ∀ i, along i [] = [])
    (hcons : ∀ i v rest, along i (v :: rest) = perChild (.index i, v) ++ along (i + 1) rest)
    (items : List Json) : along 0 items = (arr items).children.flatMap perChild := by
  -- for any first index, since the index moves along the array
  have hfrom : ∀ i, along i items =
      (items.zipIdx i).flatMap fun item => perChild (.index item.2, item.1) := by
    induction items with
    | nil =>
      intro i
      rw [hnil, List.zipIdx_nil, List.flatMap_nil]
    | cons v rest ih =>
      intro i
      rw [hcons, ih, List.zipIdx_cons, List.flatMap_cons]
  rw [hfrom, children, List.flatMap_map]

/-- A list made along an object, each value under its key, is made child by child. -/
theorem eq_flatMap_children_obj {along : List (Text × Json) → List α} (hnil : along [] = [])
    (hcons : ∀ k v rest, along ((k, v) :: rest) = perChild (.key k, v) ++ along rest)
    (entries : Entries) : along entries = (obj entries).children.flatMap perChild := by
  rw [children, List.flatMap_map]
  induction entries with
  | nil => rw [hnil, List.flatMap_nil]
  | cons entry rest ih => rw [hcons, ih, List.flatMap_cons]

end FlatMap

/-! ### Any number of steps down -/

/-- The node at a location below a node. -/
def at? (v : Json) : Location → Option Json
  | [] => some v
  | step :: outer => (v.at? outer).bind (·.child? step)

theorem at?_append (v : Json) (inner outer : Location) :
    v.at? (inner ++ outer) = (v.at? outer).bind (·.at? inner) := by
  induction inner with
  | nil => simp [at?]
  | cons step inner ih => simp only [List.cons_append, at?, ih, Option.bind_assoc]

mutual

/-- All nodes below the node at `place`, in document order. -/
def descendants (place : Location) : Json → List (Location × Json)
  | .obj entries => descendantsEntries place entries
  | .arr items => descendantsItems place 0 items
  | _ => []

/-- `descendants` for the entries of an object. -/
def descendantsEntries (place : Location) : List (Text × Json) → List (Location × Json)
  | [] => []
  | (k, v) :: rest =>
    (.key k :: place, v) :: (descendants (.key k :: place) v ++ descendantsEntries place rest)

/-- `descendants` for the members of an array, the first of which has the given index. -/
def descendantsItems (place : Location) (i : Nat) : List Json → List (Location × Json)
  | [] => []
  | v :: rest =>
    (.index i :: place, v) ::
      (descendants (.index i :: place) v ++ descendantsItems place (i + 1) rest)

end

/-- Document order, told by steps: every child is directly followed by what lies below it. -/
theorem descendants_eq_flatMap (place : Location) (v : Json) :
    v.descendants place = v.children.flatMap fun child =>
      (child.1 :: place, child.2) :: child.2.descendants (child.1 :: place) := by
  cases v with
  | null | bool | int | float | str => simp [descendants, children]
  | arr items =>
    rw [descendants]
    refine eq_flatMap_children_arr (fun i => ?_) (fun i v rest => ?_) items
    · rw [descendantsItems]
    · rw [descendantsItems, List.cons_append]
  | obj entries =>
    rw [descendants]
    refine eq_flatMap_children_obj ?_ (fun k v rest => ?_) entries
    · rw [descendantsEntries]
    · rw [descendantsEntries, List.cons_append]

/-- What lies below a place has a location that goes on from that place. -/
theorem exists_append_of_mem_descendants {v : Json} {place q : Location} {w : Json}
    (h : (q, w) ∈ v.descendants place) : ∃ inner, inner ≠ [] ∧ q = inner ++ place := by
  induction v using induction_children generalizing place with
  | node v ih =>
    rw [descendants_eq_flatMap, List.mem_flatMap] at h
    obtain ⟨child, hc, h⟩ := h
    rcases List.mem_cons.mp h with heq | h
    · obtain ⟨rfl, -⟩ := Prod.mk.inj heq
      exact ⟨[child.1], by simp, rfl⟩
    · obtain ⟨inner, -, rfl⟩ := ih child hc h
      exact ⟨inner ++ [child.1], by simp, by simp⟩

/-- **The listed nodes.** Below a well-formed node lie exactly the nodes at the locations that lead
down from it. -/
theorem mem_descendants_append_iff {v : Json} (hv : v.WellFormed) {place inner : Location}
    {w : Json} : (inner ++ place, w) ∈ v.descendants place ↔ inner ≠ [] ∧ v.at? inner = some w := by
  induction v using induction_children generalizing place inner with
  | node v ih =>
    rw [descendants_eq_flatMap, List.mem_flatMap]
    constructor
    · rintro ⟨child, hc, h⟩
      have hchild : v.child? child.1 = some child.2 := (mem_children_iff hv).mp hc
      rcases List.mem_cons.mp h with heq | h
      · -- the node is the child itself, one step down
        obtain ⟨hloc, rfl⟩ := Prod.mk.inj heq
        obtain rfl : inner = [child.1] :=
          List.append_cancel_right (hloc.trans (List.singleton_append).symm)
        exact ⟨by simp, by simpa [at?] using hchild⟩
      · -- the child lies on the way, so its own location is split off at the outer end
        obtain ⟨deeper, hne, hloc⟩ := exists_append_of_mem_descendants h
        obtain rfl : inner = deeper ++ [child.1] := by
          refine (List.append_left_inj place).mp ?_
          rw [hloc, List.append_assoc, List.singleton_append]
        rw [List.append_assoc, List.singleton_append, ih child hc (hv.child hc)] at h
        refine ⟨by simp, ?_⟩
        rw [at?_append]
        simpa [at?, hchild] using h.2
    · -- a location begins at its last step, so the way down is taken apart at that end
      rintro ⟨hne, hat⟩
      obtain ⟨deeper, step, rfl⟩ := List.eq_nil_or_concat inner |>.resolve_left hne
      rw [List.concat_eq_append, at?_append] at hat
      simp only [at?, Option.bind_some, Option.bind_eq_some_iff] at hat
      obtain ⟨child, hchild, hat⟩ := hat
      have hc : (step, child) ∈ v.children := (mem_children_iff hv).mpr hchild
      refine ⟨(step, child), hc, List.mem_cons.mpr ?_⟩
      rw [List.concat_eq_append, List.append_assoc, List.singleton_append]
      cases deeper with
      | nil => exact Or.inl (by simpa [at?] using hat.symm)
      | cons s rest =>
        exact Or.inr ((ih (step, child) hc (hv.child hc)).mpr ⟨by simp, hat⟩)

/-- The locations listed by one child, itself and what lies below it, go on from its own. -/
private theorem suffix_of_mem_child {place q : Location} {child : Step × Json}
    (h : q ∈ ((child.1 :: place, child.2) :: child.2.descendants (child.1 :: place)).map Prod.fst) :
    (child.1 :: place) <:+ q := by
  obtain ⟨⟨q, w⟩, hq, rfl⟩ := List.mem_map.mp h
  rcases List.mem_cons.mp hq with heq | hq
  · obtain ⟨rfl, -⟩ := Prod.mk.inj heq
    exact List.suffix_refl _
  · obtain ⟨inner, -, rfl⟩ := exists_append_of_mem_descendants hq
    exact List.suffix_append _ _

/-- **No location is listed twice** below a well-formed node. -/
theorem nodup_descendants {v : Json} (hv : v.WellFormed) (place : Location) :
    ((v.descendants place).map Prod.fst).Nodup := by
  induction v using induction_children generalizing place with
  | node v ih =>
    rw [descendants_eq_flatMap, List.map_flatMap, List.nodup_flatMap]
    refine ⟨fun child hc => ?_, ?_⟩
    · -- a child stands before what lies below it, whose locations are longer
      rw [List.map_cons, List.nodup_cons]
      refine ⟨fun hmem => ?_, ih child hc (hv.child hc) _⟩
      obtain ⟨⟨q, w⟩, hq, hloc⟩ := List.mem_map.mp hmem
      obtain ⟨inner, hne, rfl⟩ := exists_append_of_mem_descendants hq
      exact hne (List.append_left_eq_self.mp hloc)
    · -- two children are told apart by their steps
      refine (List.pairwise_map.mp (nodup_children hv)).imp fun {a b} hab q hqa hqb => hab ?_
      -- the locations of both children are equally long suffixes of `q`
      have ha := suffix_of_mem_child hqa
      have hb := suffix_of_mem_child hqb
      have hsame := (List.suffix_of_suffix_length_le ha hb (by simp)).eq_of_length (by simp)
      exact (List.cons.inj hsame).1

/-- `mem_descendants_append_iff` from the root. -/
theorem mem_descendants_iff {v : Json} (hv : v.WellFormed) {place : Location} {w : Json} :
    (place, w) ∈ v.descendants [] ↔ place ≠ [] ∧ v.at? place = some w := by
  have h := @mem_descendants_append_iff v hv [] place w
  rwa [List.append_nil] at h

end Gridwork.Json
