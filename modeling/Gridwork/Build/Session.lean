import Gridwork.Build.Basic

/-!
# Building in single steps

A session builds a workbook by actions from outside, each of which may fail; the session goes on
after a failure with whatever the action had done. A context is a sheet that later actions may write
into.
-/

namespace Gridwork

/-- One action of a session. Contexts are named by their number, in the order of their creation. -/
inductive Action where
  /-- Build a sheet; its context is opened if that succeeds. -/
  | sheet (path : Text) (node : Json)
  /-- Build all sheets of a workbook node. -/
  | workbook (node : Json)
  /-- Open a context over a new sheet, whose cursor stands at a given row. -/
  | context (nextRow : Int)
  | header (context : Nat) (path : Text) (node : Json)
  | row (context : Nat) (path : Text) (node : Json)
  | reserve (context : Nat)
  deriving DecidableEq, Repr

/-- A workbook and, for every context, the index of its sheet. -/
structure Session where
  workbook : Workbook
  contexts : List Nat

/-- What an action answers. -/
inductive Reply where
  | done
  | built (name : Text)
  | reserved (row : Int)
  | failed (e : Failure)
  deriving DecidableEq, Repr

namespace Session

/-- A session that has not begun. -/
def start : Session := ⟨.empty, []⟩

/-- The sheet of a context. -/
def contextSheet? (s : Session) (context : Nat) : Option Sheet := do
  let i ← s.contexts[context]?
  s.workbook.sheets[i]?

/-- Runs a step on the sheet of a context. -/
def onContext (s : Session) (context : Nat) {α : Type} (step : Build Sheet α) (reply : α → Reply) :
    Session × Reply :=
  match s.contexts[context]? with
  | none => (s, .done)
  | some i =>
    match s.workbook.sheets[i]? with
    | none => (s, .done)
    | some sheet =>
      match step ⟨sheet, #[]⟩ with
      | .ok a p => ({ s with workbook := ⟨s.workbook.sheets.set i p.state⟩ }, reply a)
      | .error e p => ({ s with workbook := ⟨s.workbook.sheets.set i p.state⟩ }, .failed e)

/-- Performs an action. -/
def perform (s : Session) : Action → Session × Reply
  | .sheet path node =>
    match Build.buildSheet path node ⟨s.workbook, #[]⟩ with
    | .ok plan p => (⟨p.state, s.contexts ++ [s.workbook.sheets.length]⟩, .built plan.name)
    | .error e p => ({ s with workbook := p.state }, .failed e)
  | .workbook node =>
    match Build.buildWorkbookNode node ⟨s.workbook, #[]⟩ with
    | .ok _ p => ({ s with workbook := p.state }, .done)
    | .error e p => ({ s with workbook := p.state }, .failed e)
  | .context nextRow =>
    match Title.choose s.workbook.titles Title.untitled with
    | .ok title =>
      let sheet := Sheet.empty title nextRow
      (⟨s.workbook.addSheet sheet, s.contexts ++ [s.workbook.sheets.length]⟩, .done)
    | .error e => (s, .failed (.untitled e))
  | .header context path node =>
    s.onContext context (Build.writeHeader path node) fun _ => .done
  | .row context path node => s.onContext context (Build.writeRow path node) fun _ => .done
  | .reserve context => s.onContext context Build.reserveRow .reserved

end Session

end Gridwork
