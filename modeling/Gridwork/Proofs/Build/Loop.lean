import Gridwork.Proofs.Build.Step
import Mathlib.Data.List.Induction

/-!
# Where a loop stops

A loop goes through its members in order, and the first step that fails ends it. So a loop that
fails does so at one member: those before it were dealt with, and the step at it failed from there
(`Build.StopsAt`). The two directions are

* `StopsAt.run` — a loop that stops at a member fails, as the step did;
* `exists_stopsAt` — a loop that fails stops at some member.

What comes behind that member is not looked at. `StopsAt.congr` says so: a loop that has the same
members up to there stops at the same place with the same error and the same progress. In particular
the members can be cut off in front of it and behind it (`exists_cut_of_error`).
-/

namespace Gridwork.Build

variable {σ β : Type} {p q : Progress σ} {e : Failure}

/-! ### Loops -/

section Loops

variable {step : Nat → β → Build σ Unit} {members members' : List β} {i : Nat}

/-- A loop over two lists is a loop over one and then a loop over the other. -/
theorem forEach_append (step : Nat → β → Build σ Unit) (first : Nat) (bs cs : List β) :
    forEach step first (bs ++ cs)
      = forEach step first bs >>= fun _ => forEach step (first + bs.length) cs := by
  induction bs generalizing first with
  | nil => rw [List.nil_append, forEach, pure_bind, List.length_nil, Nat.add_zero]
  | cons b rest ih =>
    have hindex : first + (b :: rest).length = first + 1 + rest.length := by
      rw [List.length_cons]
      omega
    rw [List.cons_append, forEach, forEach, ih, bind_assoc, hindex]

/-- A loop that was done came past every index. -/
theorem exists_reached_of_ok {u : Unit} (h : forEach step 0 members p = .ok u q) (n : Nat) :
    ∃ reached, forEach step 0 (members.take n) p = .ok () reached ∧
      forEach step (members.take n).length (members.drop n) reached = .ok () q := by
  rw [← List.take_append_drop n members, forEach_append, Nat.zero_add] at h
  obtain ⟨_, reached, hbefore, hbehind⟩ := exists_ok_of_bind h
  exact ⟨reached, hbefore, hbehind⟩

/-- A loop stops at a member: the members before it are dealt with, and the step at it fails. -/
structure StopsAt (step : Nat → β → Build σ Unit) (members : List β) (i : Nat) (p : Progress σ)
    (e : Failure) (q : Progress σ) : Prop where
  fails : ∃ member reached, members[i]? = some member ∧
    forEach step 0 (members.take i) p = .ok () reached ∧ step i member reached = .error e q

theorem StopsAt.lt_length (h : StopsAt step members i p e q) : i < members.length := by
  obtain ⟨member, -, hmember, -, -⟩ := h.fails
  exact (List.getElem?_eq_some_iff.mp hmember).1

/-- A loop that stops at a member fails there. -/
theorem StopsAt.run (h : StopsAt step members i p e q) : forEach step 0 members p = .error e q := by
  obtain ⟨member, reached, hmember, hbefore, hfails⟩ := h.fails
  obtain ⟨hlt, rfl⟩ := List.getElem?_eq_some_iff.mp hmember
  -- the members before it, the member, and those that are never reached
  have hsplit : members = members.take i ++ (members[i] :: members.drop (i + 1)) := by
    rw [List.getElem_cons_drop, List.take_append_drop]
  have hindex : 0 + (members.take i).length = i := by
    rw [List.length_take]
    omega
  rw [hsplit, forEach_append, bind_of_ok hbefore, hindex, forEach]
  exact bind_of_error hfails _

/-- **What comes behind is not looked at.** -/
theorem StopsAt.congr (h : StopsAt step members i p e q)
    (htake : members'.take (i + 1) = members.take (i + 1)) : StopsAt step members' i p e q := by
  obtain ⟨member, reached, hmember, hbefore, hfails⟩ := h.fails
  -- the member itself and those before it are among the first `i + 1`
  have hmember' : members'[i]? = some member := by
    rw [← List.getElem?_take_of_lt (Nat.lt_succ_self i), htake,
      List.getElem?_take_of_lt (Nat.lt_succ_self i), hmember]
  have htake' : members'.take i = members.take i := by
    have hle : min i (i + 1) = i := Nat.min_eq_left (Nat.le_succ i)
    rw [← hle, ← List.take_take, htake, List.take_take]
  exact ⟨member, reached, hmember', by rw [htake', hbefore], hfails⟩

/-- A loop that fails stops at one of its members. -/
theorem exists_stopsAt (h : forEach step 0 members p = .error e q) :
    ∃ i, StopsAt step members i p e q := by
  -- on the list from its end: either the loop fails before the last member or at it
  induction members using List.reverseRecOn with
  | nil => cases h
  | append_singleton rest last ih =>
    rw [forEach_append, Nat.zero_add] at h
    cases hrest : forEach step 0 rest p with
    | error e' q' =>
      rw [bind_of_error hrest] at h
      obtain ⟨rfl, rfl⟩ := EStateM.Result.error.inj h
      obtain ⟨i, hi⟩ := ih hrest
      have hle : i + 1 ≤ rest.length := hi.lt_length
      exact ⟨i, hi.congr (List.take_append_of_le_length hle)⟩
    | ok u reached =>
      rw [bind_of_ok hrest, forEach, forEach, bind_pure_unit] at h
      refine ⟨rest.length, last, reached, ?_, ?_, h⟩
      · exact List.getElem?_concat_length
      · rw [List.take_left, hrest]

/-- A loop that fails can be cut: in front of the member at which it stops, where it is done, and
behind it, where it fails in the same way. -/
theorem exists_cut_of_error (h : forEach step 0 members p = .error e q) :
    ∃ i member reached, forEach step 0 (members.take i) p = .ok () reached ∧
      step i member reached = .error e q ∧
      forEach step 0 (members.take (i + 1)) p = .error e q := by
  obtain ⟨i, hstops⟩ := exists_stopsAt h
  have hcut : StopsAt step (members.take (i + 1)) i p e q :=
    hstops.congr (by rw [List.take_take, Nat.min_self])
  obtain ⟨member, reached, -, hbefore, hfails⟩ := hstops.fails
  exact ⟨i, member, reached, hbefore, hfails, hcut.run⟩

end Loops

end Gridwork.Build
