import Gridwork.Build.Basic

/-!
# What holds of every step of building

Building is put together from a few steps: cells are written, rows are reserved, sheets are added,
events are reported, and what has been built so far is looked at. A property of steps that these
have, and that passes on to steps made one after the other, is a property of all of building.

`Build.StepLaws` are the laws for any thing that is built, `Build.SheetLaws` and
`Build.WorkbookLaws` those for sheets and workbooks. Each module that needs to know something of
every step shows the laws for its property and has the rest from here:
`Build.SheetLaws.writeSheet`, `Build.WorkbookLaws.buildWorkbookNode` and
`Build.WorkbookLaws.buildRequest`.
-/

namespace Gridwork.Build

variable {σ α β : Type}

/-- What passes a property of steps on, whatever is built. -/
structure StepLaws (P : ∀ {α : Type}, Build σ α → Prop) : Prop where
  pure {α : Type} (a : α) : P (pure a)
  stop {α : Type} (e : BuildError) : P (stop e : Build σ α)
  report (e : Event) : P (report e)
  bind {α β : Type} {m : Build σ α} {f : α → Build σ β} (hm : P m) (hf : ∀ a, P (f a)) :
    P (m >>= f)
  /-- What is built may be looked at, but not what has been reported. -/
  look {β : Type} {f : Progress σ → Build σ β}
    (hstate : ∀ s events events', f ⟨s, events⟩ = f ⟨s, events'⟩) (hf : ∀ p, P (f p)) :
    P (get >>= f)

/-- What makes a property one of all steps on a sheet. -/
structure SheetLaws (P : ∀ {α : Type}, Build Sheet α → Prop) : Prop extends StepLaws P where
  writeCell (row : Int) (column : Nat) (content : Content) (style : Option Style) :
    P (writeCell row column content style)
  moveCursor : P (change Sheet.reserveRow)

/-- What makes a property one of all steps on a workbook. -/
structure WorkbookLaws (P : ∀ {α : Type}, Build Workbook α → Prop) : Prop extends StepLaws P where
  addSheet (title path : Text) (plan : SheetPlan) :
    P (withNewSheet (.empty title 1) (writeSheet path plan))

/-! ### Any thing that is built -/

namespace StepLaws

variable {P : ∀ {α : Type}, Build σ α → Prop}

theorem ofExcept (h : StepLaws P) (r : Except BuildError α) : P (ofExcept r) := by
  cases r with
  | ok a => exact h.pure a
  | error e => exact h.stop e

theorem forEach (h : StepLaws P) {step : Nat → β → Build σ Unit} (hstep : ∀ i b, P (step i b))
    (i : Nat) (members : List β) : P (forEach step i members) := by
  induction members generalizing i with
  | nil => exact h.pure ()
  | cons b rest ih => exact h.bind (hstep i b) fun _ => ih (i + 1)

end StepLaws

/-! ### Sheets -/

namespace SheetLaws

variable {P : ∀ {α : Type}, Build Sheet α → Prop}

theorem writeText (h : SheetLaws P) (row : Int) (column : Nat) (style : Option Style)
    (field text : Text) : P (writeText row column style field text) := by
  unfold Build.writeText
  split
  · exact h.writeCell _ _ _ _
  · exact h.bind (h.writeCell _ _ _ _) fun _ => h.stop _

theorem writeValue (h : SheetLaws P) (row : Int) (column : Nat) (style : Option Style)
    (key : Text) (v : Json) : P (writeValue row column style key v) := by
  cases v with
  | null => exact h.stop _
  | bool b => exact h.writeCell _ _ _ _
  | int n => exact h.writeCell _ _ _ _
  | float x =>
    dsimp only [Build.writeValue]
    split
    · exact h.writeCell _ _ _ _
    · exact h.bind (h.writeCell _ _ _ _) fun _ => h.stop _
  | str s => exact h.writeText _ _ _ _ _
  | arr items => exact h.bind (h.writeText _ _ _ _ _) fun _ => h.report _
  | obj entries => exact h.bind (h.writeText _ _ _ _ _) fun _ => h.report _

theorem reserveRow (h : SheetLaws P) : P reserveRow :=
  h.look (fun _ _ _ => rfl) fun _ => h.bind h.moveCursor fun _ => h.pure _

theorem writeHeader (h : SheetLaws P) (path : Text) (node : Json) :
    P (writeHeader path node) := by
  refine h.bind (h.ofExcept _) fun plan => h.bind h.reserveRow fun row => ?_
  refine h.forEach (fun i v => ?_) 0 plan.columns
  -- a label that is no text stops
  cases v with
  | str label => exact h.writeText _ _ _ _ _
  | null | bool | int | float | arr | obj => exact h.stop _

theorem writeRow (h : SheetLaws P) (path : Text) (node : Json) : P (writeRow path node) := by
  refine h.bind (h.ofExcept _) fun plan => h.bind h.reserveRow fun row => ?_
  exact h.forEach (fun i column => h.writeValue _ _ _ _ _) 0 plan.columns

theorem writeSheet (h : SheetLaws P) (path : Text) (plan : SheetPlan) :
    P (writeSheet path plan) := by
  have hheader : P (writeSheetHeader path plan) := by
    -- a header must be there, rows need not
    unfold writeSheetHeader
    split
    · exact h.stop _
    · exact h.writeHeader _ _
  have hrows : P (writeSheetRows path plan) := by
    unfold writeSheetRows
    split
    · exact h.pure _
    · exact h.forEach (fun i node => h.writeRow _ _) 0 _
    · exact h.stop _
  exact h.bind hheader fun _ => h.bind hrows fun _ =>
    h.look (fun _ _ _ => rfl) fun _ => h.report _

end SheetLaws

/-! ### Workbooks -/

namespace WorkbookLaws

variable {P : ∀ {α : Type}, Build Workbook α → Prop}

theorem chooseTitle (h : WorkbookLaws P) (path name : Text) : P (chooseTitle path name) := by
  refine h.look (fun _ _ _ => rfl) fun p => ?_
  cases Title.choose p.state.titles name with
  | ok title => exact h.pure _
  | error e => exact h.stop _

theorem buildSheet (h : WorkbookLaws P) (path : Text) (node : Json) :
    P (buildSheet path node) := by
  refine h.bind (h.ofExcept _) fun plan => h.bind (h.chooseTitle path plan.name) fun title => ?_
  exact h.bind (h.addSheet title path plan) fun _ => h.pure _

theorem buildWorkbookNode (h : WorkbookLaws P) (node : Json) : P (buildWorkbookNode node) := by
  refine h.bind (h.ofExcept _) fun sheets => h.forEach (fun i sheet => ?_) 0 sheets
  exact h.bind (h.buildSheet _ _) fun _ => h.pure _

theorem buildRequest (h : WorkbookLaws P) (request : Json) : P (buildRequest request) := by
  cases request with
  | obj entries =>
    refine h.bind (h.forEach (fun _ entry => ?_) 0 entries) fun _ =>
      h.look (fun _ _ _ => rfl) fun p => ?_
    -- an entry is the workbook or only reported
    · unfold buildEntry
      split
      · exact h.buildWorkbookNode _
      · exact h.report _
    · split
      · exact h.stop _
      · exact h.pure _
  | null | bool | int | float | str | arr => exact h.stop _

end WorkbookLaws

end Gridwork.Build
