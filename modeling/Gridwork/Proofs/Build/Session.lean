import Gridwork.Build.Session
import Gridwork.Proofs.Build.Request

/-!
# Sessions only ever add

A session goes on after a failed action with whatever the action had done, so what holds of a
session must hold after failures too. `Session.run` is the session after a series of actions, failed
ones included, and `Session.run_appendOnly` is the result about it:

* no action changes a cell, the title or the place of a sheet that is there (`Session.Kept`);
* an action writes into the sheet of its own context at most, and there into the one row that it
  reserves (`Session.Touches`);
* all cells of a context's sheet lie between the row at which the context was opened and the cursor
  (`Session.Within`).

The way there: `Session.Step` says all that an action can do, with one constructor for each way in
which a session can change. From it comes that a session *evolves* (`Session.Evolves`): its sheets
grow in place, and new ones come behind them, grown from empty ones. Evolving is transitive, so it
holds from any point of a run to any later one.
-/

namespace Gridwork

/-- The context that an action writes into, if it does. -/
def Action.context? : Action → Option Nat
  | .header n _ _ => some n
  | .row n _ _ => some n
  | .reserve n => some n
  | _ => none

/-- The first row of the sheet that an action opens a context over. -/
def Action.firstRow : Action → Int
  | .context nextRow => nextRow
  | _ => 1

namespace Session

variable {s t u : Session} {a : Action}

/-- The session after a series of actions, whether they succeed or fail. -/
def run (actions : List Action) : Session := actions.foldl (fun s a => (s.perform a).1) .start

theorem run_append_singleton (actions : List Action) (a : Action) :
    run (actions ++ [a]) = ((run actions).perform a).1 := by
  rw [run, List.foldl_append]
  rfl

/-! ### What an action can do -/

/-- The index of the sheet that an action writes into, if there is one. -/
def target? (s : Session) (a : Action) : Option Nat := a.context?.bind fun n => s.contexts[n]?

/-- All that an action can do to a session. -/
inductive Step (s : Session) (a : Action) : Session → Prop
  /-- Nothing. -/
  | idle : Step s a s
  /-- The sheet of a context is taken one row further. -/
  | written {i : Nat} {sheet sheet' : Sheet} (hi : s.target? a = some i)
      (hsheet : s.workbook.sheets[i]? = some sheet) (h : sheet.Advances sheet') :
      Step s a ⟨⟨s.workbook.sheets.set i sheet'⟩, s.contexts⟩
  /-- Sheets are added, but no context is opened. -/
  | built {w : Workbook} (ha : a.context? = none) (h : s.workbook.Grows w) :
      Step s a ⟨w, s.contexts⟩
  /-- A context is opened over a new sheet. -/
  | opened {sheet : Sheet} (ha : a.context? = none)
      (h : (Sheet.empty sheet.title a.firstRow).Grows sheet) :
      Step s a ⟨s.workbook.addSheet sheet, s.contexts ++ [s.workbook.sheets.length]⟩

/-- Writing into the sheet of a context, by a step that takes it one row further at most. -/
theorem step_onContext {α : Type} {context : Nat} {step : Build Sheet α} {reply : α → Reply}
    (ha : a.context? = some context)
    (hstep : ∀ sheet : Sheet, Build.Ends step ⟨sheet, #[]⟩
      (fun _ q => q.state = sheet ∨ sheet.Advances q.state)
      (fun _ q => q.state = sheet ∨ sheet.Advances q.state)) :
    Step s a (s.onContext context step reply).1 := by
  unfold onContext
  cases hcontext : s.contexts[context]? with
  | none => exact .idle
  | some i =>
    dsimp only
    cases hsheet : s.workbook.sheets[i]? with
    | none => exact .idle
    | some sheet =>
      have htarget : s.target? a = some i := by
        rw [target?, ha, Option.bind_some, hcontext]
      -- whether it succeeded or failed, the sheet is put back as it was left
      have hput : ∀ sheet', sheet' = sheet ∨ sheet.Advances sheet' →
          Step s a ⟨⟨s.workbook.sheets.set i sheet'⟩, s.contexts⟩ := by
        rintro sheet' (rfl | h)
        · obtain ⟨hlt, rfl⟩ := List.getElem?_eq_some_iff.mp hsheet
          rw [List.set_getElem_self hlt]
          exact .idle
        · exact .written htarget hsheet h
      dsimp only
      cases hrun : step ⟨sheet, #[]⟩ with
      | ok b p => exact hput p.state ((hstep sheet).of_ok hrun)
      | error e p => exact hput p.state ((hstep sheet).of_error hrun)

/-- **All that an action can do.** -/
theorem step_perform (s : Session) (a : Action) : Step s a (s.perform a).1 := by
  cases a with
  | sheet path node =>
    have ha : (Action.sheet path node).context? = none := rfl
    dsimp only [perform]
    cases hbuild : Build.buildSheet path node ⟨s.workbook, #[]⟩ with
    | ok plan p =>
      obtain ⟨form, -, -, -, hgrows, rfl⟩ := (Build.ends_buildSheet path node).of_ok hbuild
      -- one sheet was added, so it is the one that has grown
      obtain ⟨added, hsheets, hadded⟩ := hgrows
      obtain rfl := List.append_cancel_left hsheets
      exact Step.opened ha (hadded _ (List.mem_singleton_self _))
    | error e p =>
      -- the sheet may be there, but there is no context over it
      have hrefused := (Build.ends_buildSheet path node).of_error hbuild
      exact Step.built ha hrefused.grows
  | workbook node =>
    have ha : (Action.workbook node).context? = none := rfl
    dsimp only [perform]
    cases hbuild : Build.buildWorkbookNode node ⟨s.workbook, #[]⟩ with
    | ok b p =>
      obtain ⟨forms, -, -, hgrows, -⟩ := (Build.ends_buildWorkbookNode node).of_ok hbuild
      exact Step.built ha hgrows
    | error e p =>
      have hrefused := (Build.ends_buildWorkbookNode node).of_error hbuild
      exact Step.built ha hrefused.grows
  | context nextRow =>
    have ha : (Action.context nextRow).context? = none := rfl
    dsimp only [perform]
    cases Title.choose s.workbook.titles Title.untitled with
    | ok title =>
      exact Step.opened ha (.refl _)
    | error e => exact .idle
  | header context path node =>
    refine step_onContext rfl fun sheet => (Build.ends_writeHeader path node).mono ?_ ?_
    · rintro _ q ⟨plan, -, hq⟩
      exact Or.inr hq.advances
    · rintro e q h
      exact h.advances.imp_left (congrArg Progress.state)
  | row context path node =>
    refine step_onContext rfl fun sheet => (Build.ends_writeRow path node).mono ?_ ?_
    · rintro _ q ⟨plan, -, hq⟩
      exact Or.inr hq.advances
    · rintro e q h
      exact h.advances.imp_left (congrArg Progress.state)
  | reserve context =>
    exact step_onContext rfl fun sheet => Or.inr (Sheet.advances_reserveRow sheet)

/-! ### Evolving -/

/-- A session evolves if its contexts stay, its sheets grow in place, and all new sheets have grown
from empty ones. -/
structure Evolves (s t : Session) : Prop where
  contexts : s.contexts <+: t.contexts
  grows : ∀ (i : Nat) (sheet : Sheet), s.workbook.sheets[i]? = some sheet →
    ∃ sheet', t.workbook.sheets[i]? = some sheet' ∧ sheet.Grows sheet'
  fresh : ∀ (i : Nat) (sheet : Sheet), s.workbook.sheets[i]? = none →
    t.workbook.sheets[i]? = some sheet → ∃ first, (Sheet.empty sheet.title first).Grows sheet

theorem Evolves.refl (s : Session) : s.Evolves s := by
  refine ⟨List.prefix_refl _, fun i sheet h => ⟨sheet, h, .refl sheet⟩, fun i sheet hnone h => ?_⟩
  rw [hnone] at h
  cases h

theorem Evolves.trans (hst : s.Evolves t) (htu : t.Evolves u) : s.Evolves u := by
  refine ⟨hst.contexts.trans htu.contexts, fun i sheet h => ?_, fun i sheet hnone h => ?_⟩
  · obtain ⟨sheet', h', hgrows⟩ := hst.grows i sheet h
    obtain ⟨sheet'', h'', hgrows'⟩ := htu.grows i sheet' h'
    exact ⟨sheet'', h'', hgrows.trans hgrows'⟩
  · -- a new sheet came in the first part or in the second
    cases hmid : t.workbook.sheets[i]? with
    | none => exact htu.fresh i sheet hmid h
    | some sheet' =>
      obtain ⟨first, hfirst⟩ := hst.fresh i sheet' hnone hmid
      obtain ⟨sheet'', h'', hgrows⟩ := htu.grows i sheet' hmid
      obtain rfl := Option.some.inj (h.symm.trans h'')
      rw [hgrows.title_eq]
      exact ⟨first, hfirst.trans hgrows⟩

/-- Adding sheets that have grown from empty ones is evolving. -/
theorem evolves_of_append {added : List Sheet} (hcontexts : s.contexts <+: t.contexts)
    (hsheets : t.workbook.sheets = s.workbook.sheets ++ added)
    (hadded : ∀ sheet ∈ added, ∃ first, (Sheet.empty sheet.title first).Grows sheet) :
    s.Evolves t := by
  refine ⟨hcontexts, fun i sheet h => ⟨sheet, ?_, .refl sheet⟩, fun i sheet hnone h => ?_⟩
  · rw [hsheets, List.getElem?_append_left (List.getElem?_eq_some_iff.mp h).1]
    exact h
  · rw [hsheets, List.getElem?_append_right (List.getElem?_eq_none_iff.mp hnone)] at h
    exact hadded sheet (List.mem_of_getElem? h)

theorem Step.evolves (h : Step s a t) : s.Evolves t := by
  cases h with
  | idle => exact .refl s
  | @written i sheet sheet' hi hsheet hadv =>
    have hlt := (List.getElem?_eq_some_iff.mp hsheet).1
    refine ⟨List.prefix_refl _, fun j old hj => ?_, fun j new hnone hj => ?_⟩
    · -- only the sheet that was written into grows
      by_cases hij : i = j
      · subst hij
        obtain rfl := Option.some.inj (hsheet.symm.trans hj)
        exact ⟨sheet', List.getElem?_set_self hlt, hadv.grows⟩
      · exact ⟨old, (List.getElem?_set_ne hij).trans hj, .refl old⟩
    · have hpast := List.getElem?_eq_none_iff.mp hnone
      rw [List.getElem?_eq_none (by simpa using hpast)] at hj
      cases hj
  | built ha hgrows =>
    obtain ⟨added, hsheets, hadded⟩ := hgrows
    exact evolves_of_append (List.prefix_refl _) hsheets fun sheet hs => ⟨1, hadded sheet hs⟩
  | @opened sheet ha hgrows =>
    refine evolves_of_append (List.prefix_append _ _) rfl fun sheet' hs => ?_
    rw [List.mem_singleton.mp hs]
    exact ⟨a.firstRow, hgrows⟩

/-- **A run evolves** from any point to any later one. -/
theorem evolves_run (before after : List Action) :
    (run before).Evolves (run (before ++ after)) := by
  -- on the later actions, last one first, since a run goes on at its end
  induction after using List.reverseRecOn with
  | nil =>
    rw [List.append_nil]
    exact .refl _
  | append_singleton after a ih =>
    rw [← List.append_assoc, run_append_singleton]
    exact ih.trans (step_perform _ a).evolves

/-- All sheets of a run have grown from empty ones. -/
theorem exists_grows_run {actions : List Action} {i : Nat} {sheet : Sheet}
    (h : (run actions).workbook.sheets[i]? = some sheet) :
    ∃ first, (Sheet.empty sheet.title first).Grows sheet :=
  (evolves_run [] actions).fresh i sheet rfl h

/-! ### What stays -/

/-- Contexts stay, and sheets keep their places, their titles and their cells. -/
structure Kept (s t : Session) : Prop where
  contexts : s.contexts <+: t.contexts
  sheets : ∀ (i : Nat) (sheet : Sheet), s.workbook.sheets[i]? = some sheet →
    ∃ sheet', t.workbook.sheets[i]? = some sheet' ∧ sheet'.title = sheet.title ∧
      ∀ row column c, sheet.cell? row column = some c → sheet'.cell? row column = some c

theorem kept_run (before after : List Action) : (run before).Kept (run (before ++ after)) := by
  have hevolves := evolves_run before after
  refine ⟨hevolves.contexts, fun i sheet h => ?_⟩
  obtain ⟨first, hfirst⟩ := exists_grows_run h
  obtain ⟨sheet', h', hgrows⟩ := hevolves.grows i sheet h
  refine ⟨sheet', h', hgrows.title_eq, fun row column c hc => ?_⟩
  -- a cell that is shown lies before the cursor, where growing changes nothing
  rw [hgrows.cell?_eq (hfirst.row_lt_of_cell? hc)]
  exact hc

/-! ### What is touched -/

/-- An action writes into the sheet of its own context at most, and there into the one row that it
reserves. -/
structure Touches (s : Session) (a : Action) (t : Session) : Prop where
  /-- All other sheets stay as they are. -/
  elsewhere : ∀ i < s.workbook.sheets.length, s.target? a ≠ some i →
    t.workbook.sheets[i]? = s.workbook.sheets[i]?
  /-- An action on a context adds no sheets. -/
  count : a.context? ≠ none → t.workbook.sheets.length = s.workbook.sheets.length
  /-- The sheet of the context stays as it is, or one row of it is reserved and nothing changes
  outside of that row. -/
  own : ∀ (i : Nat) (sheet : Sheet), s.target? a = some i → s.workbook.sheets[i]? = some sheet →
    ∃ sheet', t.workbook.sheets[i]? = some sheet' ∧ (sheet' = sheet ∨
      sheet'.nextRow = sheet.nextRow + 1 ∧ ∀ row column : Nat, (row : Int) ≠ sheet.nextRow →
        sheet'.cell? row column = sheet.cell? row column)

/-- An action that is not on a context only adds sheets. -/
theorem touches_of_append {added : List Sheet} (ha : a.context? = none)
    (hsheets : t.workbook.sheets = s.workbook.sheets ++ added) : s.Touches a t := by
  refine ⟨fun i hi _ => ?_, fun hctx => absurd ha hctx, fun i sheet htarget _ => ?_⟩
  · rw [hsheets, List.getElem?_append_left hi]
  · rw [target?, ha] at htarget
    cases htarget

theorem Step.touches (h : Step s a t) : s.Touches a t := by
  cases h with
  | idle => exact ⟨fun _ _ _ => rfl, fun _ => rfl, fun _ sheet _ h => ⟨sheet, h, Or.inl rfl⟩⟩
  | @written i sheet sheet' hi hsheet hadv =>
    have hlt := (List.getElem?_eq_some_iff.mp hsheet).1
    refine ⟨fun j _ hj => ?_, fun _ => List.length_set, fun j old hj hold => ?_⟩
    · refine List.getElem?_set_ne fun hij => hj ?_
      rw [hi, hij]
    · obtain rfl := Option.some.inj (hi.symm.trans hj)
      obtain rfl := Option.some.inj (hsheet.symm.trans hold)
      exact ⟨sheet', List.getElem?_set_self hlt,
        Or.inr ⟨hadv.nextRow_eq, fun row column hrow => hadv.cell?_eq hrow⟩⟩
  | built ha hgrows =>
    obtain ⟨added, hsheets, -⟩ := hgrows
    exact touches_of_append ha hsheets
  | opened ha hgrows => exact touches_of_append ha rfl

/-! ### Where the cells of a context lie -/

/-- The sheet of a context has grown from an empty one with a given first row. -/
def GrownFrom (s : Session) (n : Nat) (first : Int) : Prop :=
  ∃ sheet, s.contextSheet? n = some sheet ∧ (Sheet.empty sheet.title first).Grows sheet

/-- The cells of a context's sheet lie from a given row on and before the cursor. -/
def Within (s : Session) (n : Nat) (first : Int) : Prop :=
  ∃ sheet, s.contextSheet? n = some sheet ∧
    ∀ c ∈ sheet.cells.toList, first ≤ c.row ∧ (c.row : Int) < sheet.nextRow

/-- An action opens a context. -/
def Opens (s : Session) (a : Action) (n : Nat) : Prop :=
  s.contexts.length = n ∧ (s.perform a).1.contexts.length = n + 1

theorem GrownFrom.within {n : Nat} {first : Int} (h : s.GrownFrom n first) : s.Within n first := by
  obtain ⟨sheet, hsheet, hgrows⟩ := h
  exact ⟨sheet, hsheet, fun c hc => hgrows.row_mem hc⟩

theorem contextSheet?_eq_some_iff {n : Nat} {sheet : Sheet} :
    s.contextSheet? n = some sheet ↔
      ∃ i : Nat, s.contexts[n]? = some i ∧ s.workbook.sheets[i]? = some sheet :=
  Option.bind_eq_some_iff

theorem GrownFrom.evolves {n : Nat} {first : Int} (h : s.GrownFrom n first) (hst : s.Evolves t) :
    t.GrownFrom n first := by
  obtain ⟨sheet, hsheet, hgrows⟩ := h
  obtain ⟨i, hi, hsheet⟩ := contextSheet?_eq_some_iff.mp hsheet
  obtain ⟨sheet', hsheet', hgrows'⟩ := hst.grows i sheet hsheet
  refine ⟨sheet', contextSheet?_eq_some_iff.mpr ⟨i, ?_, hsheet'⟩, ?_⟩
  · obtain ⟨more, hmore⟩ := hst.contexts
    rw [← hmore, List.getElem?_append_left (List.getElem?_eq_some_iff.mp hi).1]
    exact hi
  · rw [hgrows'.title_eq]
    exact hgrows.trans hgrows'

/-- A context is opened one at a time, over a sheet that begins where the action says. -/
theorem Step.grownFrom_of_lt (h : Step s a t) (hlt : s.contexts.length < t.contexts.length) :
    t.contexts.length = s.contexts.length + 1 ∧ t.GrownFrom s.contexts.length a.firstRow := by
  cases h with
  | idle | written | built => exact absurd hlt (Nat.lt_irrefl _)
  | @opened sheet ha hgrows =>
    have hcontext : (s.contexts ++ [s.workbook.sheets.length])[s.contexts.length]?
        = some s.workbook.sheets.length := List.getElem?_concat_length
    have hsheet : (s.workbook.sheets ++ [sheet])[s.workbook.sheets.length]? = some sheet :=
      List.getElem?_concat_length
    exact ⟨by simp, sheet, contextSheet?_eq_some_iff.mpr ⟨_, hcontext, hsheet⟩, hgrows⟩

/-- Every context of a run was opened by one of its actions. -/
theorem exists_opens_run (actions : List Action) {n : Nat}
    (hn : n < (run actions).contexts.length) :
    ∃ before a after, actions = before ++ a :: after ∧ (run before).Opens a n ∧
      (run actions).GrownFrom n a.firstRow := by
  induction actions using List.reverseRecOn with
  | nil => exact absurd hn (Nat.not_lt_zero n)
  | append_singleton actions b ih =>
    have hstep := step_perform (run actions) b
    rw [run_append_singleton] at hn ⊢
    rcases Nat.lt_or_ge n (run actions).contexts.length with hlt | hge
    · -- the context was there before, and its sheet has grown on
      obtain ⟨before, a, after, rfl, hopens, hgrown⟩ := ih hlt
      exact ⟨before, a, after ++ [b], by simp, hopens, hgrown.evolves hstep.evolves⟩
    · -- the last action has opened it
      obtain ⟨hlen, hgrown⟩ := hstep.grownFrom_of_lt (by omega)
      obtain rfl : n = (run actions).contexts.length := by omega
      exact ⟨actions, b, [], rfl, ⟨rfl, hlen⟩, hgrown⟩

/-! ### The result -/

/-- What holds of a run: nothing that is there changes, every action touches only what is its own,
and the cells of every context lie between the row where it was opened and its cursor. -/
structure AppendOnly (actions : List Action) : Prop where
  kept : ∀ before after, actions = before ++ after → (run before).Kept (run actions)
  touches : ∀ before a after, actions = before ++ a :: after →
    (run before).Touches a (run (before ++ [a]))
  within : ∀ n < (run actions).contexts.length, ∃ before a after,
    actions = before ++ a :: after ∧ (run before).Opens a n ∧ (run actions).Within n a.firstRow

/-- **Sessions only ever add**, whatever the actions and whichever of them fail. -/
theorem run_appendOnly (actions : List Action) : AppendOnly actions := by
  refine ⟨fun before after h => ?_, fun before a after _ => ?_, fun n hn => ?_⟩
  · rw [h]
    exact kept_run before after
  · rw [run_append_singleton]
    exact (step_perform _ a).touches
  · obtain ⟨before, a, after, hsplit, hopens, hgrown⟩ := exists_opens_run actions hn
    exact ⟨before, a, after, hsplit, hopens, hgrown.within⟩

end Session

end Gridwork
