/-!
# References in settings

A value of a settings file may refer to other variables: `${NAME}` stands for the value of the
variable `NAME`, and with `:-` and a text behind the name for that text if there is no such
variable. Everything else stands for itself. `Reference.expand` replaces all references of a value.
-/

namespace Gridwork

/-- A reference to a variable, with the number of characters that it takes. -/
structure Reference where
  name : String
  fallback : Option String
  size : Nat
  deriving DecidableEq, Repr

namespace Reference

/-- The number of characters around a name: a dollar sign and two braces. -/
def frame : Nat := 3

/-- The number of characters between a name and its fallback. -/
def mark : Nat := 2

/-- Whether a character may stand in the name of a reference. -/
def isNameChar (c : Char) : Bool := c != '}' && c != ':'

/-- Reads the reference that a text begins with. -/
def ofChars? : List Char → Option Reference
  | '$' :: '{' :: rest =>
    let name := rest.takeWhile isNameChar
    match rest.dropWhile isNameChar with
    | '}' :: _ => some ⟨String.ofList name, none, frame + name.length⟩
    | ':' :: '-' :: rest =>
      let fallback := rest.takeWhile (· != '}')
      if rest.contains '}' then
        some ⟨String.ofList name, some (String.ofList fallback),
          frame + name.length + mark + fallback.length⟩
      else none
    | _ => none
  | _ => none

/-- A text with its references replaced by their values; the first `skip` characters are left
out. -/
def expandFrom (value : Reference → String) : Nat → List Char → List Char
  | _, [] => []
  | skip + 1, _ :: rest => expandFrom value skip rest
  | 0, c :: rest =>
    match ofChars? (c :: rest) with
    | some r => (value r).toList ++ expandFrom value (r.size - 1) rest
    | none => c :: expandFrom value 0 rest

/-- A text with its references replaced by their values. -/
def expand (value : Reference → String) (cs : List Char) : List Char := expandFrom value 0 cs

/-- A text without a dollar sign stands for itself. -/
theorem expand_of_forall_ne (value : Reference → String) (cs : List Char)
    (h : ∀ c ∈ cs, c ≠ '$') : expand value cs = cs := by
  unfold expand
  induction cs with
  | nil => rfl
  | cons c cs ih =>
    have hc : c ≠ '$' := h c (by simp)
    have none_eq : ofChars? (c :: cs) = none := by
      unfold ofChars?
      split
      · next heq => exact absurd (List.cons.inj heq).1 hc
      · rfl
    simp only [expandFrom, none_eq, ih fun d hd => h d (by simp [hd])]

end Reference

end Gridwork
