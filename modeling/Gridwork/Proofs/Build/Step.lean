import Gridwork.Build.Basic

/-!
# Steps of building and how they end

A step of building ends in a success or in a failure, and keeps its state either way.
`Build.Ends m p ok fail` says of the step `m` begun at `p` that a success satisfies `ok` and a
failure satisfies `fail`. There is one rule for each way of making a step; the rule for a loop,
`ends_forEach`, takes an invariant that is told the index of the next member.

The statement for a function is one `Ends` that says everything the function can do; what a caller
needs is read off it by `Ends.mono`, `Ends.of_ok` and `Ends.of_error`.
-/

namespace Gridwork.Build

variable {σ α β : Type} {p q : Progress σ} {ok : α → Progress σ → Prop}
  {fail : Failure → Progress σ → Prop}

/-- How a step ends: a success satisfies `ok`, a failure satisfies `fail`. -/
def Ends (m : Build σ α) (p : Progress σ) (ok : α → Progress σ → Prop)
    (fail : Failure → Progress σ → Prop) : Prop :=
  match m p with
  | .ok a q => ok a q
  | .error e q => fail e q

/-! ### Reading an end -/

theorem Ends.of_ok {m : Build σ α} (h : Ends m p ok fail) {a : α} (hm : m p = .ok a q) :
    ok a q := by
  unfold Ends at h
  rwa [hm] at h

theorem Ends.of_error {m : Build σ α} (h : Ends m p ok fail) {e : Failure} (hm : m p = .error e q) :
    fail e q := by
  unfold Ends at h
  rwa [hm] at h

theorem Ends.mono {m : Build σ α} {ok' : α → Progress σ → Prop}
    {fail' : Failure → Progress σ → Prop} (h : Ends m p ok fail) (hok : ∀ a q, ok a q → ok' a q)
    (hfail : ∀ e q, fail e q → fail' e q) : Ends m p ok' fail' := by
  unfold Ends at h ⊢
  cases hm : m p with
  | ok a q => rw [hm] at h; exact hok a q h
  | error e q => rw [hm] at h; exact hfail e q h

/-- A workbook that was built is what building its request ends with. -/
theorem Ends.of_built {request : Json} {w : Workbook} {ok : Unit → Progress Workbook → Prop}
    {fail : Failure → Progress Workbook → Prop}
    (h : Ends (buildRequest request) ⟨.empty, #[]⟩ ok fail)
    (hbuilt : (buildWorkbook request).outcome = .ok w) : ∃ events, ok () ⟨w, events⟩ := by
  unfold buildWorkbook at hbuilt
  cases hbuild : buildRequest request ⟨.empty, #[]⟩ with
  | error e q =>
    rw [hbuild] at hbuilt
    cases hbuilt
  | ok a q =>
    rw [hbuild] at hbuilt
    obtain rfl : q.state = w := Except.ok.inj hbuilt
    exact ⟨q.events, h.of_ok hbuild⟩

/-! ### One step after the other -/

theorem bind_of_ok {m : Build σ α} {a : α} (hm : m p = .ok a q) (f : α → Build σ β) :
    (m >>= f) p = f a q := by
  -- the bind of the class is that of `EStateM` by definition only
  change EStateM.bind m f p = f a q
  rw [EStateM.bind, hm]

theorem bind_of_error {m : Build σ α} {e : Failure} (hm : m p = .error e q) (f : α → Build σ β) :
    (m >>= f) p = .error e q := by
  change EStateM.bind m f p = .error e q
  rw [EStateM.bind, hm]

/-- Two steps succeed only one after the other. -/
theorem exists_ok_of_bind {m : Build σ α} {f : α → Build σ β} {b : β} {r : Progress σ}
    (h : (m >>= f) p = .ok b r) : ∃ a q, m p = .ok a q ∧ f a q = .ok b r := by
  cases hm : m p with
  | ok a q =>
    rw [bind_of_ok hm] at h
    exact ⟨a, q, rfl, h⟩
  | error e q =>
    rw [bind_of_error hm] at h
    cases h

/-- Looking at the progress changes nothing. -/
theorem run_get (p : Progress σ) : (get : Build σ (Progress σ)) p = .ok p p := rfl

/-! ### The rules -/

theorem ends_pure {a : α} (h : ok a p) : Ends (pure a) p ok fail := h

theorem ends_stop {e : BuildError} (h : fail (.build e) p) : Ends (stop e) p ok fail := h

theorem ends_throw {e : Failure} (h : fail e p) : Ends (throw e) p ok fail := h

theorem ends_get {ok : Progress σ → Progress σ → Prop} (h : ok p p) : Ends get p ok fail := h

theorem ends_report {ok : Unit → Progress σ → Prop} {e : Event}
    (h : ok () ⟨p.state, p.events.push e⟩) : Ends (report e) p ok fail := h

theorem ends_change {ok : Unit → Progress σ → Prop} {f : σ → σ}
    (h : ok () ⟨f p.state, p.events⟩) : Ends (change f) p ok fail := h

theorem ends_bind {m : Build σ α} {f : α → Build σ β} {ok : β → Progress σ → Prop}
    (h : Ends m p (fun a q => Ends (f a) q ok fail) fail) : Ends (m >>= f) p ok fail := by
  cases hm : m p with
  | ok a q =>
    have hf : Ends (f a) q ok fail := h.of_ok hm
    unfold Ends at hf ⊢
    rwa [bind_of_ok hm]
  | error e q =>
    have he : fail e q := h.of_error hm
    unfold Ends
    rw [bind_of_error hm]
    exact he

theorem ends_ofExcept {r : Except BuildError α} (hok : ∀ a, r = .ok a → ok a p)
    (hfail : ∀ e, r = .error e → fail (.build e) p) : Ends (ofExcept r) p ok fail := by
  cases r with
  | ok a => exact hok a rfl
  | error e => exact hfail e rfl

/-- A new sheet is added however filling it ends. -/
theorem ends_withNewSheet {sheet : Sheet} {fill : Build Sheet α} {p : Progress Workbook}
    {ok : α → Progress Workbook → Prop} {fail : Failure → Progress Workbook → Prop}
    (h : Ends fill ⟨sheet, p.events⟩ (fun a q => ok a ⟨p.state.addSheet q.state, q.events⟩)
      (fun e q => fail e ⟨p.state.addSheet q.state, q.events⟩)) :
    Ends (withNewSheet sheet fill) p ok fail := by
  unfold Ends withNewSheet
  cases hfill : fill ⟨sheet, p.events⟩ with
  | ok a q => exact h.of_ok hfill
  | error e q => exact h.of_error hfill

/-- **The loop rule.** What holds at the first index and is kept by every step, as long as none
fails, holds behind the last one. -/
theorem ends_forEach {step : Nat → β → Build σ Unit} (inv : Nat → Progress σ → Prop) {i : Nat}
    {members : List β} (h : inv i p)
    (hstep : ∀ j b q, members[j]? = some b → inv (i + j) q →
      Ends (step (i + j) b) q (fun _ => inv (i + j + 1)) fail) :
    Ends (forEach step i members) p (fun _ => inv (i + members.length)) fail := by
  -- on the members, each time from the index and the progress that are reached
  induction members generalizing i p with
  | nil => exact ends_pure h
  | cons b rest ih =>
    refine ends_bind ((hstep 0 b p rfl h).mono (fun _ q hq => ?_) fun _ _ he => he)
    have hrest : i + (b :: rest).length = i + 1 + rest.length := by
      rw [List.length_cons]
      omega
    rw [hrest]
    -- a member of the rest is one further in the whole list
    refine ih hq fun j c r hj hr => ?_
    have hindex : i + 1 + j = i + (j + 1) := by omega
    rw [hindex] at hr ⊢
    exact hstep (j + 1) c r hj hr

end Gridwork.Build
