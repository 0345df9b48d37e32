import Gridwork.Proofs.Build.Interchange

/-!
# Building that differs in the wording of an error

A failure is told by its class and by the field that it is reported for; its wording may show more
of the request than was at fault. Two failures of one class that are reported for one field are the
same fault (`Failure.SameFault`).

`Build.SameButWording m m'` says of two steps that, begun from the same progress, they end in the
same progress and with the same result or the same fault. It is kept by steps made one after the
other, by loops whose members go together, and by filling a new sheet. Two attempts at reading that
give related results or faults of one field (`ReadUpTo`) are followed by such steps if what is done
with related results is.
-/

namespace Gridwork

/-! ### Faults -/

/-- The classes of failures, by the name of the exception that is raised. -/
def Failure.kind : Failure → Text
  | .build (.style _) => "StyleError"
  | .build _ => "BuildError"
  | .rowOutOfRange => "ValueError"
  | .untitled _ => "ValueError"

/-- The field that a failure is reported for. -/
def Failure.field : Failure → Option Text
  | .build e => e.field
  | .rowOutOfRange => none
  | .untitled _ => none

/-- Two failures of one class that are reported for one field. -/
structure Failure.SameFault (e e' : Failure) : Prop where
  kind : e.kind = e'.kind
  field : e.field = e'.field

theorem Failure.SameFault.refl (e : Failure) : e.SameFault e := ⟨rfl, rfl⟩

theorem Failure.sameFault_style {e e' : StyleError} (h : e.field = e'.field) :
    Failure.SameFault (.build (.style e)) (.build (.style e')) :=
  ⟨rfl, congrArg some h⟩

/-! ### Reading -/

/-- Two attempts at reading: they give related results, or both fail and the errors are related. -/
inductive ReadUpTo {ε α β : Type} (S : ε → ε → Prop) (R : α → β → Prop) :
    Except ε α → Except ε β → Prop
  | ok {a : α} {b : β} (h : R a b) : ReadUpTo S R (.ok a) (.ok b)
  | error {e e' : ε} (h : S e e') : ReadUpTo S R (.error e) (.error e')

/-- Two errors of one field. -/
def StyleError.SameField (e e' : StyleError) : Prop := e.field = e'.field

theorem StyleError.SameField.refl (e : StyleError) : e.SameField e := rfl

/-- Two errors that are the same fault. -/
def BuildError.SameFault (e e' : BuildError) : Prop :=
  Failure.SameFault (.build e) (.build e')

theorem BuildError.SameFault.refl (e : BuildError) : e.SameFault e := Failure.SameFault.refl _

theorem ReadUpTo.refl {ε α : Type} {S : ε → ε → Prop} (hS : ∀ e, S e e) (r : Except ε α) :
    ReadUpTo S Eq r r := by
  cases r with
  | ok a => exact .ok rfl
  | error e => exact .error (hS e)

/-- One attempt after the other. -/
theorem ReadUpTo.bind {ε α β : Type} {S : ε → ε → Prop} {r r' : Except ε α}
    {f f' : α → Except ε β} (h : ReadUpTo S Eq r r') (hf : ∀ a, ReadUpTo S Eq (f a) (f' a)) :
    ReadUpTo S Eq (r >>= f) (r' >>= f') := by
  cases h with
  | ok heq =>
    obtain rfl := heq
    exact hf _
  | error he => exact .error he

namespace Build

variable {σ α β : Type}

/-! ### Steps -/

/-- Two ends with the same progress, and with the same result or the same fault. -/
inductive EndsAlike :
    EStateM.Result Failure (Progress σ) α → EStateM.Result Failure (Progress σ) α → Prop
  | ok (a : α) (q : Progress σ) : EndsAlike (.ok a q) (.ok a q)
  | error {e e' : Failure} (h : e.SameFault e') (q : Progress σ) :
      EndsAlike (.error e q) (.error e' q)

/-- Two steps that do the same but for the wording of a failure. -/
def SameButWording (m m' : Build σ α) : Prop := ∀ p, EndsAlike (m p) (m' p)

theorem SameButWording.refl (m : Build σ α) : SameButWording m m := by
  intro p
  cases m p with
  | ok a q => exact .ok a q
  | error e q => exact .error (.refl e) q

theorem SameButWording.bind {m m' : Build σ α} {f f' : α → Build σ β} (hm : SameButWording m m')
    (hf : ∀ a, SameButWording (f a) (f' a)) : SameButWording (m >>= f) (m' >>= f') := by
  intro p
  have hends := hm p
  -- the bind of the class is that of `EStateM` by definition only
  change EndsAlike (EStateM.bind m f p) (EStateM.bind m' f' p)
  unfold EStateM.bind
  generalize m p = x at hends
  generalize m' p = y at hends
  cases hends with
  | ok a q => exact hf a q
  | error h q => exact .error h q

/-- What is done with two results of reading. -/
theorem SameButWording.of_read {γ : Type} {R : α → β → Prop} {r : Except BuildError α}
    {r' : Except BuildError β} {f : α → Build σ γ} {f' : β → Build σ γ}
    (h : ReadUpTo BuildError.SameFault R r r')
    (hf : ∀ a b, R a b → SameButWording (f a) (f' b)) :
    SameButWording (Build.ofExcept r >>= f) (Build.ofExcept r' >>= f') := by
  cases h with
  | ok hab => exact hf _ _ hab
  | error he => exact fun p => .error he p

/-- A loop over lists whose members are dealt with alike. -/
theorem SameButWording.forEach {step : Nat → α → Build σ Unit} {step' : Nat → β → Build σ Unit}
    {as : List α} {bs : List β}
    (h : List.Forall₂ (fun a b => ∀ i, SameButWording (step i a) (step' i b)) as bs) (i : Nat) :
    SameButWording (forEach step i as) (forEach step' i bs) := by
  induction h generalizing i with
  | nil => exact .refl _
  | cons hab _ ih => exact (hab i).bind fun _ => ih (i + 1)

/-- A new sheet is added however filling it ends. -/
theorem SameButWording.withNewSheet {fill fill' : Build Sheet α} (h : SameButWording fill fill')
    (sheet : Sheet) : SameButWording (withNewSheet sheet fill) (withNewSheet sheet fill') := by
  intro p
  have hends := h ⟨sheet, p.events⟩
  unfold Build.withNewSheet
  generalize fill ⟨sheet, p.events⟩ = x at hends
  generalize fill' ⟨sheet, p.events⟩ = y at hends
  cases hends with
  | ok a q => exact .ok a ⟨p.state.addSheet q.state, q.events⟩
  | error h q => exact .error h ⟨p.state.addSheet q.state, q.events⟩

end Build

/-! ### Requests -/

/-- Two requests come out the same: as the same workbook or the same fault, with the same events. -/
inductive BuiltAlike : Built → Built → Prop
  | built (w : Workbook) (events : List Event) : BuiltAlike ⟨.ok w, events⟩ ⟨.ok w, events⟩
  | refused {e e' : Failure} (h : e.SameFault e') (events : List Event) :
      BuiltAlike ⟨.error e, events⟩ ⟨.error e', events⟩

/-- Requests that are built by steps that are the same but for the wording. -/
theorem builtAlike_of_sameButWording {v w : Json}
    (h : Build.SameButWording (Build.buildRequest v) (Build.buildRequest w)) :
    BuiltAlike (buildWorkbook v) (buildWorkbook w) := by
  have hends := h ⟨.empty, #[]⟩
  unfold buildWorkbook
  generalize Build.buildRequest v ⟨.empty, #[]⟩ = x at hends
  generalize Build.buildRequest w ⟨.empty, #[]⟩ = y at hends
  cases hends with
  | ok a q => exact .built q.state q.events.toList
  | error h q => exact .refused h q.events.toList

end Gridwork
