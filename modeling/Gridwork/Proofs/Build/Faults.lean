import Gridwork.Proofs.Build.Step

/-!
# What can be wrong with a sheet

A sheet that is known to be an object with a text for a name can still be refused, for what is wrong
with its name as a title, with its header or with its rows. `SheetFault path` lists all errors that
this can lead to for a sheet that lies at `path`, each with the place that it names, and
`Build.failsWith_buildSheet` says that no other error is possible.

`Build.FailsWith kind m` says of the step `m` that its build errors are all of a kind, from whatever
progress it is begun. Running out of rows is no build error. What writes a cell is of any kind that
has the few errors of the cell (`Build.failsWith_writeValue`, `Build.failsWith_writeLabel`).
-/

namespace Gridwork

/-- The errors of a sheet that is an object with a text for a name. -/
inductive SheetFault (path : Text) : BuildError → Prop
  | emptyName : SheetFault path (.emptyName (fieldPath path Field.name))
  | badTitle (name : Text) (e : TitleError) :
      SheetFault path (.badTitle name e (fieldPath path Field.name))
  | noHeader (name : Text) : SheetFault path (.noHeader name (fieldPath path Field.header))
  | headerNotObject : SheetFault path (.notObject (fieldPath path Field.header))
  | columnsNotArray :
      SheetFault path (.notArray (fieldPath (fieldPath path Field.header) Field.columns))
  | labelNotText (i : Nat) : SheetFault path
      (.notText (joinIndex (fieldPath (fieldPath path Field.header) Field.columns) i))
  | rowsNotArray : SheetFault path (.notArray (fieldPath path Field.rows))
  | rowNotObject (i : Nat) : SheetFault path (.notObject (joinIndex (fieldPath path Field.rows) i))
  | style (e : StyleError) : SheetFault path (.style e)
  | nullValue (key : Text) : SheetFault path (.nullValue key)
  | notFinite (key : Text) (x : Binary64) : SheetFault path (.notFinite key x)
  | illegalText (field : Text) : SheetFault path (.illegalText field)

namespace Build

/-! ### Errors of a kind -/

section Rules

variable {σ α β : Type} {kind : BuildError → Prop}

/-- The build errors of a step are all of a kind. -/
def FailsWith (kind : BuildError → Prop) (m : Build σ α) : Prop :=
  ∀ p, Ends m p (fun _ _ => True) fun e _ => ∀ b, e = .build b → kind b

theorem FailsWith.of_error {m : Build σ α} (h : FailsWith kind m) {p q : Progress σ}
    {b : BuildError} (hm : m p = .error (.build b) q) : kind b :=
  (h p).of_error hm b rfl

theorem failsWith_pure (a : α) : FailsWith kind (pure a : Build σ α) := fun _ => ends_pure trivial

theorem failsWith_stop {e : BuildError} (h : kind e) : FailsWith kind (stop e : Build σ α) :=
  fun _ => ends_stop fun _ heq => Failure.build.inj heq ▸ h

theorem failsWith_report (e : Event) : FailsWith kind (report e : Build σ Unit) :=
  fun _ => ends_report trivial

theorem failsWith_ofExcept {r : Except BuildError α} (h : ∀ e, r = .error e → kind e) :
    FailsWith kind (ofExcept r : Build σ α) :=
  fun _ => ends_ofExcept (fun _ _ => trivial) fun e he _ heq => Failure.build.inj heq ▸ h e he

theorem FailsWith.bind {m : Build σ α} {f : α → Build σ β} (hm : FailsWith kind m)
    (hf : ∀ a, FailsWith kind (f a)) : FailsWith kind (m >>= f) :=
  fun p => ends_bind ((hm p).mono (fun a q _ => hf a q) fun _ _ he => he)

/-- Going on with what was read. -/
theorem failsWith_bind_ofExcept {r : Except BuildError α} {f : α → Build σ β}
    (he : ∀ e, r = .error e → kind e) (hf : ∀ a, r = .ok a → FailsWith kind (f a)) :
    FailsWith kind (ofExcept r >>= f) := by
  cases r with
  | error e => exact fun p => ends_bind (ends_stop fun _ heq => Failure.build.inj heq ▸ he e rfl)
  | ok a => exact hf a rfl

/-- Looking at the progress cannot fail. -/
theorem failsWith_look {f : Progress σ → Build σ β} (hf : ∀ p, FailsWith kind (f p)) :
    FailsWith kind (get >>= f) :=
  fun p => ends_bind (ends_get (hf p p))

theorem failsWith_forEach_mem {step : Nat → β → Build σ Unit} {members : List β}
    (h : ∀ i, ∀ b ∈ members, FailsWith kind (step i b)) (i : Nat) :
    FailsWith kind (forEach step i members) :=
  fun _ => ends_forEach (fun _ _ => True) trivial fun j b q hb _ =>
    h (i + j) b (List.mem_of_getElem? hb) q

theorem failsWith_forEach {step : Nat → β → Build σ Unit} (h : ∀ i b, FailsWith kind (step i b))
    (i : Nat) (members : List β) : FailsWith kind (forEach step i members) :=
  failsWith_forEach_mem (fun i b _ => h i b) i

theorem failsWith_withNewSheet {fill : Build Sheet α} (h : FailsWith kind fill) (sheet : Sheet) :
    FailsWith kind (withNewSheet sheet fill) :=
  fun p => ends_withNewSheet (h ⟨sheet, p.events⟩)

end Rules

/-! ### Rows -/

section Rows

variable {kind : BuildError → Prop}

/-- Writing a cell fails only for want of rows. -/
theorem failsWith_writeCell (row : Int) (column : Nat) (content : Content) (style : Option Style) :
    FailsWith kind (writeCell row column content style) := by
  intro p
  unfold writeCell
  split
  · exact ends_change trivial
  · exact ends_throw fun b hb => by cases hb

theorem failsWith_writeText {field : Text} (h : kind (.illegalText field)) (row : Int)
    (column : Nat) (style : Option Style) (text : Text) :
    FailsWith kind (writeText row column style field text) := by
  unfold writeText
  split
  · exact failsWith_writeCell _ _ _ _
  · exact (failsWith_writeCell _ _ _ _).bind fun _ => failsWith_stop h

theorem failsWith_writeValue {key : Text} (hnull : kind (.nullValue key))
    (hnumber : ∀ x, kind (.notFinite key x)) (htext : kind (.illegalText key)) (row : Int)
    (column : Nat) (style : Option Style) (v : Json) :
    FailsWith kind (writeValue row column style key v) := by
  cases v with
  | null => exact failsWith_stop hnull
  | bool | int => exact failsWith_writeCell _ _ _ _
  | str s => exact failsWith_writeText htext _ _ _ _
  | float x =>
    dsimp only [writeValue]
    split
    · exact failsWith_writeCell _ _ _ _
    · exact (failsWith_writeCell _ _ _ _).bind fun _ => failsWith_stop (hnumber x)
  | arr | obj => exact (failsWith_writeText htext _ _ _ _).bind fun _ => failsWith_report _

theorem failsWith_writeLabel {path : Text} {i : Nat} (hkind : kind (.notText (joinIndex path i)))
    (htext : kind (.illegalText (joinIndex path i))) (row : Int) (style : Style) (label : Json) :
    FailsWith kind (writeLabel row style path i label) := by
  cases label with
  | str s => exact failsWith_writeText htext _ _ _ _
  | null | bool | int | float | arr | obj => exact failsWith_stop hkind

theorem failsWith_reserveRow : FailsWith kind reserveRow :=
  failsWith_look fun _ => FailsWith.bind (fun _ => ends_change trivial) fun _ => failsWith_pure _

end Rows

variable {path : Text}

theorem style_of_readStyleField {place : Text} {entries : Json.Entries} {e : BuildError}
    (h : readStyleField place entries = .error e) : ∃ s, e = .style s := by
  unfold readStyleField at h
  split at h
  · cases h
  · split at h
    · cases h
    · next s _ => exact ⟨s, (Except.error.inj h).symm⟩

/-- Why a header is not read: it is no object, its columns are no array, or its style is faulty. -/
theorem fault_of_readHeader {node : Json} {e : BuildError}
    (h : HeaderPlan.read path node = .error e) :
    e = .notObject path ∨ e = .notArray (fieldPath path Field.columns) ∨ ∃ s, e = .style s := by
  unfold HeaderPlan.read at h
  split at h
  · -- the columns come before the style
    split at h
    · split at h
      · cases h
      · next hstyle =>
        obtain rfl := Except.error.inj h
        exact Or.inr (Or.inr (style_of_readStyleField hstyle))
    · exact Or.inr (Or.inl (Except.error.inj h).symm)
  · exact Or.inl (Except.error.inj h).symm

/-- Why a data row is not read: it is no object, or its style is faulty. -/
theorem fault_of_readRow {node : Json} {e : BuildError} (h : RowPlan.read path node = .error e) :
    e = .notObject path ∨ ∃ s, e = .style s := by
  unfold RowPlan.read at h
  split at h
  · split at h
    · cases h
    · next hstyle =>
      obtain rfl := Except.error.inj h
      exact Or.inr (style_of_readStyleField hstyle)
  · exact Or.inl (Except.error.inj h).symm

theorem failsWith_writeHeader (node : Json) :
    FailsWith (SheetFault path) (writeHeader (fieldPath path Field.header) node) := by
  refine (failsWith_ofExcept fun e he => ?_).bind fun plan => failsWith_reserveRow.bind fun row =>
    failsWith_forEach (fun i label =>
      failsWith_writeLabel (.labelNotText i) (.illegalText _) _ _ label) 0 plan.columns
  rcases fault_of_readHeader he with rfl | rfl | ⟨s, rfl⟩
  · exact .headerNotObject
  · exact .columnsNotArray
  · exact .style s

theorem failsWith_writeRow (i : Nat) (node : Json) :
    FailsWith (SheetFault path) (writeRow (joinIndex (fieldPath path Field.rows) i) node) := by
  refine (failsWith_ofExcept fun e he => ?_).bind fun plan => failsWith_reserveRow.bind fun row =>
    failsWith_forEach (fun i column => failsWith_writeValue (.nullValue column.1)
      (.notFinite column.1) (.illegalText column.1) _ _ _ _) 0 plan.columns
  rcases fault_of_readRow he with rfl | ⟨s, rfl⟩
  · exact .rowNotObject i
  · exact .style s

/-! ### Sheets -/

theorem failsWith_writeSheet (plan : SheetPlan) :
    FailsWith (SheetFault path) (writeSheet path plan) := by
  have hheader : FailsWith (SheetFault path) (writeSheetHeader path plan) := by
    unfold writeSheetHeader
    split
    · exact failsWith_stop (.noHeader plan.name)
    · exact failsWith_writeHeader _
  have hrows : FailsWith (SheetFault path) (writeSheetRows path plan) := by
    unfold writeSheetRows
    split
    · exact failsWith_pure _
    · exact failsWith_forEach failsWith_writeRow 0 _
    · exact failsWith_stop .rowsNotArray
  exact hheader.bind fun _ => hrows.bind fun _ => failsWith_look fun _ => failsWith_report _

/-- **What can be wrong with a sheet**: it is not a named object, or it has one of the faults of a
sheet. -/
theorem failsWith_buildSheet (path : Text) (node : Json) :
    FailsWith (fun e => SheetPlan.read path node = .error e ∨ SheetFault path e)
      (buildSheet path node) := by
  have hmono : ∀ {σ α : Type} {m : Build σ α}, FailsWith (SheetFault path) m →
      FailsWith (fun e => SheetPlan.read path node = .error e ∨ SheetFault path e) m :=
    fun h p => (h p).mono (fun _ _ hok => hok) fun _ _ he b hb => Or.inr (he b hb)
  refine (failsWith_ofExcept fun e he => Or.inl he).bind fun plan => ?_
  refine (hmono (failsWith_look fun p => ?_)).bind fun title => ?_
  · split
    · exact failsWith_pure _
    · next e _ => exact failsWith_stop (.badTitle plan.name e)
  · exact (hmono (failsWith_withNewSheet (failsWith_writeSheet plan) _)).bind fun _ =>
      failsWith_pure _

end Build

end Gridwork
