import Gridwork.Style.Reading

/-!
# Which styles can be read

Reading a style is told where the style lies in the request, so that it can say so in an error. The
place has no part in what is read: `Style.read_eq_ok_iff`. Hence it makes sense to say of a node
alone that it resolves to a style (`Style.Resolves`).

Two readings are **alike** if they give the same results, whatever their errors; every function of
the reader is alike at any two places.
-/

namespace Gridwork.Style

variable {α β : Type}

/-! ### Readings that are alike -/

/-- Two readings are alike if they give the same results. -/
def Alike (a b : Except StyleError α) : Prop := ∀ x, a = .ok x ↔ b = .ok x

theorem Alike.refl (a : Except StyleError α) : Alike a a := fun _ => Iff.rfl

theorem alike_error (d e : StyleError) : Alike (.error d : Except StyleError α) (.error e) := by
  intro x
  constructor <;> intro h <;> cases h

theorem Alike.bind {a b : Except StyleError α} {f g : α → Except StyleError β} (h : Alike a b)
    (hfg : ∀ x, Alike (f x) (g x)) : Alike (a >>= f) (b >>= g) := by
  intro y
  cases a with
  | ok x =>
    -- both first readings give `x`, and what follows is alike
    obtain rfl : b = .ok x := (h x).mp rfl
    exact hfg x y
  | error d =>
    cases b with
    | ok x => exact absurd ((h x).mpr rfl) (by simp)
    | error e => exact alike_error d e y

/-! ### The parts of a style -/

variable (p q : Text)

theorem alike_readWord (words : List (Text × α)) (v : Json) :
    Alike (readWord words p v) (readWord words q v) := by
  cases v with
  | null => exact Alike.refl _
  | str s =>
    simp only [readWord]
    cases words.lookup (Text.upper s) with
    | some w => exact Alike.refl _
    | none => exact alike_error _ _
  | bool | int | float | arr | obj => exact alike_error _ _

theorem alike_readAlignment (v : Json) : Alike (readAlignment p v) (readAlignment q v) := by
  cases v with
  | null => exact Alike.refl _
  | obj entries =>
    exact (alike_readWord _ _ _ _).bind fun h => (alike_readWord _ _ _ _).bind fun v => Alike.refl _
  | bool | int | float | str | arr => exact alike_error _ _

theorem alike_readChannel (entries : Json.Entries) (channel : Text) :
    Alike (readChannel entries channel p) (readChannel entries channel q) := by
  unfold readChannel
  cases entries.get? channel with
  | none => exact alike_error _ _
  | some v =>
    cases v with
    | int n =>
      dsimp only
      split
      · exact Alike.refl _
      · exact alike_error _ _
    | null | bool | float | str | arr | obj => exact alike_error _ _

theorem alike_readColor (v : Json) : Alike (readColor p v) (readColor q v) := by
  cases v with
  | null => exact Alike.refl _
  | obj entries =>
    exact (alike_readChannel _ _ _ _).bind fun red => (alike_readChannel _ _ _ _).bind fun green =>
      (alike_readChannel _ _ _ _).bind fun blue => Alike.refl _
  | bool | int | float | str | arr => exact alike_error _ _

theorem alike_readFlag (name : Text) (v : Json) :
    Alike (readFlag p name v) (readFlag q name v) := by
  cases v with
  | null | bool => exact Alike.refl _
  | int | float | str | arr | obj => exact alike_error _ _

theorem alike_readBorderFlag (entries : Json.Entries) (name short : Text) :
    Alike (readBorderFlag entries p name short) (readBorderFlag entries q name short) := by
  refine (alike_readFlag _ _ _ _).bind fun flag => ?_
  -- the short name is read only if the long one says nothing
  split
  · exact Alike.refl _
  · exact (alike_readFlag _ _ _ _).bind fun short => Alike.refl _

theorem alike_readBorders (entries : Json.Entries) :
    Alike (readBorders entries p) (readBorders entries q) := by
  have hflag := alike_readBorderFlag p q entries
  exact (hflag _ _).bind fun all => (hflag _ _).bind fun vertical =>
    (hflag _ _).bind fun horizontal => (hflag _ _).bind fun left => (hflag _ _).bind fun right =>
    (hflag _ _).bind fun top => (hflag _ _).bind fun bottom => Alike.refl _

/-! ### Whole styles -/

theorem alike_read (spec : Json) : Alike (read p spec) (read q spec) := by
  cases spec with
  | obj entries =>
    exact (alike_readAlignment _ _ _).bind fun alignment => (alike_readColor _ _ _).bind fun text =>
      (alike_readColor _ _ _).bind fun fill => (alike_readFlag _ _ _ _).bind fun bold =>
      (alike_readFlag _ _ _ _).bind fun italic => (alike_readFlag _ _ _ _).bind fun underline =>
      (alike_readBorders _ _ _).bind fun borders => Alike.refl _
  | null | bool | int | float | str | arr => exact alike_error _ _

/-- A node resolves to a style if it can be read as that style. -/
def Resolves (spec : Json) (s : Style) : Prop := ∃ path, read path spec = .ok s

/-- **The place has no part in what is read.** -/
theorem read_eq_ok_iff {path : Text} {spec : Json} {s : Style} :
    read path spec = .ok s ↔ Resolves spec s :=
  ⟨fun h => ⟨path, h⟩, fun ⟨other, h⟩ => (alike_read other path spec s).mp h⟩

end Gridwork.Style
