import Mathlib.Data.List.Forall2

/-!
# Lists that go together member by member

Nodes and what they describe, two spellings of a request, the members of a list and the results of a
run over it: each time two lists go together member by member, as `List.Forall₂` says. The lemmas
here find the partner of a member (`exists_mem_right_of_forall₂`) and tell what a run over a list
gives (`mapM_eq_ok_iff`). In front of them stands what is used of lists of pairs.
-/

namespace Gridwork

/-! ### Pairs -/

/-- A lookup looks at the first pair first. -/
theorem lookup_cons_eq {α β : Type} [DecidableEq α] (k l : α) (v : β) (pairs : List (α × β)) :
    ((l, v) :: pairs).lookup k = if k = l then some v else pairs.lookup k := by
  rw [List.lookup_cons]
  by_cases hk : k = l
  · rw [if_pos hk, beq_iff_eq.mpr hk]
  · rw [if_neg hk, beq_eq_false_iff_ne.mpr hk]

/-- What is found under a key is one of the pairs. -/
theorem mem_of_lookup {α β : Type} [BEq α] [LawfulBEq α] {pairs : List (α × β)} {k : α} {v : β}
    (h : pairs.lookup k = some v) : (k, v) ∈ pairs := by
  obtain ⟨before, after, rfl, -⟩ := List.lookup_eq_some_iff.mp h
  exact List.mem_append_right before List.mem_cons_self

/-! ### Partners -/

section Partners

variable {α β : Type} {R : α → β → Prop} {as : List α} {bs : List β}

/-- Related lists have related members. -/
theorem exists_getElem?_of_forall₂ (h : List.Forall₂ R as bs) {i : Nat} {a : α}
    (ha : as[i]? = some a) : ∃ b, bs[i]? = some b ∧ R a b := by
  -- on the pairing of the two lists, for any index into them
  induction h generalizing i with
  | nil => simp at ha
  | @cons a' b' _ _ hab _ ih =>
    cases i with
    | zero =>
      obtain rfl : a' = a := by simpa using ha
      exact ⟨b', rfl, hab⟩
    | succ i => exact ih (by simpa using ha)

/-- A member on the left has its partner on the right. -/
theorem exists_mem_right_of_forall₂ (h : List.Forall₂ R as bs) {a : α} (ha : a ∈ as) :
    ∃ b ∈ bs, R a b := by
  obtain ⟨i, hi⟩ := List.getElem?_of_mem ha
  obtain ⟨b, hb, hab⟩ := exists_getElem?_of_forall₂ h hi
  exact ⟨b, List.mem_of_getElem? hb, hab⟩

/-- A member on the right has its partner on the left. -/
theorem exists_mem_left_of_forall₂ (h : List.Forall₂ R as bs) {b : β} (hb : b ∈ bs) :
    ∃ a ∈ as, R a b :=
  exists_mem_right_of_forall₂ h.flip hb

/-- Two lists that differ in one member. -/
theorem forall₂_append_cons {R : α → α → Prop} (hrefl : ∀ a, R a a) {a b : α} (h : R a b)
    (before after : List α) : List.Forall₂ R (before ++ a :: after) (before ++ b :: after) :=
  List.rel_append (List.forall₂_same.mpr fun a _ => hrefl a)
    (.cons h (List.forall₂_same.mpr fun a _ => hrefl a))

/-- What is related comes from the lists. -/
theorem forall₂_mem (h : List.Forall₂ R as bs) :
    List.Forall₂ (fun a b => a ∈ as ∧ R a b) as bs :=
  (List.forall₂_and_left _ _).mpr ⟨fun _ ha => ha, h⟩

/-- Related lists are related member by member along their indices. -/
theorem forall₂_zipIdx (h : List.Forall₂ R as bs) (i : Nat) :
    List.Forall₂ (fun a b => a.2 = b.2 ∧ R a.1 b.1) (as.zipIdx i) (bs.zipIdx i) := by
  induction h generalizing i with
  | nil => exact .nil
  | cons hab _ ih =>
    rw [List.zipIdx_cons, List.zipIdx_cons]
    exact .cons ⟨rfl, hab⟩ (ih (i + 1))

/-- What is listed for one member after the other, in some order. -/
theorem perm_flatMap_of_forall₂ {γ : Type} {f : α → List γ} {g : β → List γ}
    (h : List.Forall₂ (fun a b => (f a).Perm (g b)) as bs) :
    (as.flatMap f).Perm (bs.flatMap g) := by
  induction h with
  | nil => exact .refl []
  | cons hab _ ih =>
    rw [List.flatMap_cons, List.flatMap_cons]
    exact hab.append ih

/-- What is listed for one member after the other. -/
theorem flatMap_eq_of_forall₂ {γ : Type} {f : α → List γ} {g : β → List γ}
    (h : List.Forall₂ (fun a b => f a = g b) as bs) : as.flatMap f = bs.flatMap g := by
  induction h with
  | nil => rfl
  | cons hab _ ih => rw [List.flatMap_cons, List.flatMap_cons, hab, ih]

end Partners

/-! ### The first member that is not of a kind -/

/-- Members of a kind and behind them one of another kind are told apart. -/
theorem span_append_cons {α : Type} {p : α → Bool} {as : List α} {a : α}
    (h : ∀ x ∈ as, p x = true) (ha : p a = false) (bs : List α) :
    (as ++ a :: bs).takeWhile p = as ∧ (as ++ a :: bs).dropWhile p = a :: bs := by
  have hneg : ¬ p a = true := by simp [ha]
  rw [List.takeWhile_append_of_pos h, List.dropWhile_append_of_pos h,
    List.takeWhile_cons_of_neg hneg, List.dropWhile_cons_of_neg hneg, List.append_nil]
  exact ⟨rfl, rfl⟩

/-! ### Runs over a list -/

section MapM

variable {ε α β : Type} {f : α → Except ε β}

/-- A run over a list succeeds with the results of its members. -/
theorem mapM_eq_ok_iff {as : List α} {bs : List β} :
    as.mapM f = .ok bs ↔ List.Forall₂ (fun a b => f a = .ok b) as bs := by
  induction as generalizing bs with
  | nil =>
    rw [List.mapM_nil, List.forall₂_nil_left_iff]
    exact ⟨fun h => (Except.ok.inj h).symm, fun h => h ▸ rfl⟩
  | cons a as ih =>
    rw [List.mapM_cons, List.forall₂_cons_left_iff]
    -- the first member comes first, and the rest only if it succeeds
    cases ha : f a with
    | error e => exact iff_of_false (fun h => by cases h) fun ⟨b, bs', hb, _⟩ => by cases hb
    | ok b =>
      cases has : as.mapM f with
      | error e =>
        refine iff_of_false (fun h => by cases h) fun ⟨b', bs', _, hbs, _⟩ => ?_
        rw [ih.mpr hbs] at has
        cases has
      | ok bs' =>
        constructor
        · intro h
          exact ⟨b, bs', rfl, ih.mp has, (Except.ok.inj h).symm⟩
        · rintro ⟨b', bs'', hb, hbs, rfl⟩
          obtain rfl := Except.ok.inj hb
          obtain rfl := Except.ok.inj (has.symm.trans (ih.mpr hbs))
          rfl

/-- Every result of a run is that of a member. -/
theorem exists_mem_of_mapM {as : List α} {bs : List β} (h : as.mapM f = .ok bs) {b : β}
    (hb : b ∈ bs) : ∃ a ∈ as, f a = .ok b :=
  exists_mem_left_of_forall₂ (mapM_eq_ok_iff.mp h) hb

/-- A run over a list succeeds if it does so for every member. -/
theorem exists_mapM_iff (as : List α) :
    (∃ bs, as.mapM f = .ok bs) ↔ ∀ a ∈ as, ∃ b, f a = .ok b := by
  constructor
  · rintro ⟨bs, h⟩ a ha
    obtain ⟨b, -, hb⟩ := exists_mem_right_of_forall₂ (mapM_eq_ok_iff.mp h) ha
    exact ⟨b, hb⟩
  · intro h
    simp only [mapM_eq_ok_iff]
    induction as with
    | nil => exact ⟨[], .nil⟩
    | cons a as ih =>
      obtain ⟨b, hb⟩ := h a List.mem_cons_self
      obtain ⟨bs, hbs⟩ := ih fun a' ha' => h a' (List.mem_cons_of_mem a ha')
      exact ⟨b :: bs, .cons hb hbs⟩

end MapM

/-! ### Results -/

theorem eq_of_rel_eq {α : Type} {x y : Option α} (h : Option.Rel Eq x y) : x = y := by
  cases h with
  | none => rfl
  | some heq => rw [heq]

/-- Two computations succeed only one after the other. -/
theorem bind_eq_ok_iff {ε α β : Type} {x : Except ε α} {f : α → Except ε β} {b : β} :
    (x >>= f) = .ok b ↔ ∃ a, x = .ok a ∧ f a = .ok b := by
  cases x with
  | error e =>
    constructor
    · intro h
      cases h
    · rintro ⟨a, ha, -⟩
      cases ha
  | ok a =>
    constructor
    · exact fun h => ⟨a, rfl, h⟩
    · rintro ⟨a', ha, h⟩
      obtain rfl := Except.ok.inj ha
      exact h

/-- A computation goes on after another one if both succeed, where the second does so or not
whatever the first has given. -/
theorem exists_bind_iff {ε α β : Type} {x : Except ε α} {f : α → Except ε β} {P : Prop}
    (hf : ∀ a, x = .ok a → ((∃ b, f a = .ok b) ↔ P)) :
    (∃ b, (x >>= f) = .ok b) ↔ (∃ a, x = .ok a) ∧ P := by
  simp only [bind_eq_ok_iff]
  constructor
  · rintro ⟨b, a, ha, hb⟩
    exact ⟨⟨a, ha⟩, (hf a ha).mp ⟨b, hb⟩⟩
  · rintro ⟨⟨a, ha⟩, hP⟩
    obtain ⟨b, hb⟩ := (hf a ha).mpr hP
    exact ⟨b, a, ha, hb⟩

/-- Giving something back is no further chance to fail. -/
theorem exists_bind_pure_iff {ε α β : Type} {x : Except ε α} {g : α → β} :
    (∃ b, (x >>= fun a => pure (g a)) = .ok b) ↔ ∃ a, x = .ok a := by
  have hpure : ∀ a, x = .ok a → ((∃ b, (pure (g a) : Except ε β) = .ok b) ↔ True) :=
    fun a _ => iff_of_true ⟨g a, rfl⟩ trivial
  rw [exists_bind_iff hpure, and_true]

/-- What is known of a result if there is one. -/
theorem exists_ok_of_map {ε α β : Type} {x : Except ε α} {f : α → β} {b : β}
    (h : x.toOption.map f = some b) : ∃ a, x = .ok a ∧ f a = b := by
  cases x with
  | error e => cases h
  | ok a => exact ⟨a, rfl, Option.some.inj h⟩

end Gridwork
