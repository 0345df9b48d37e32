/-!
# Pieces of a text

`splitWhere` cuts a text at every character of a kind. There is always one piece more than there are
such characters. `withoutEnd` takes one character off the end of a text, if it is there.
-/

namespace Gridwork.Text

/-- The pieces of a text between the characters that divide it. -/
def splitWhere (divides : Char → Bool) : List Char → List (List Char)
  | [] => [[]]
  | c :: rest =>
    if divides c then [] :: splitWhere divides rest
    else
      match splitWhere divides rest with
      | [] => [[c]]
      | piece :: pieces => (c :: piece) :: pieces

/-- The pieces of a text between slashes. -/
def splitSlash (cs : List Char) : List (List Char) := splitWhere (· == '/') cs

/-- A text without the character `c` that may end it. -/
def withoutEnd (c : Char) (cs : List Char) : List Char :=
  if cs.getLast? = some c then cs.dropLast else cs

theorem splitWhere_ne_nil (divides : Char → Bool) (cs : List Char) :
    splitWhere divides cs ≠ [] := by
  cases cs with
  | nil => simp [splitWhere]
  | cons c rest =>
    unfold splitWhere
    split
    · simp
    · split <;> simp

/-- There are no pieces but the text itself if nothing divides it. -/
theorem splitWhere_eq_singleton {divides : Char → Bool} {cs : List Char}
    (h : ∀ c ∈ cs, divides c = false) : splitWhere divides cs = [cs] := by
  induction cs with
  | nil => rfl
  | cons c cs ih =>
    obtain ⟨hc, hcs⟩ := List.forall_mem_cons.mp h
    rw [splitWhere, hc, ih hcs]
    rfl

end Gridwork.Text
