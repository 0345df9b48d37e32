import Gridwork.Workbook.Title
import Mathlib.Algebra.Group.Nat.Defs
import Mathlib.Data.List.Basic

/-!
# Which titles can be given

`Title.choose` either gives a title or says why there is none. `choose_eq_ok_iff` tells the two
apart: a title is given exactly if the wanted title has no invalid character and **fits** beside the
titles in use (`Title.Fits`), and then it is `Title.given`. A title that is not taken always fits.
One that is taken gets a number behind it, and fits unless one of the numbers that are looked at, or
the next one, has too many digits.

Sheets are titled one after the other, each beside those before it: `Title.extend` are the titles,
and `Title.AllFit` says that every name of a list fits in its turn.
-/

namespace Gridwork

/-- A list with one more member: the old members keep their places, the new one is the last. -/
theorem getElem?_append_singleton_iff {α : Type} {xs : List α} {x y : α} {i : Nat} :
    (xs ++ [x])[i]? = some y ↔ xs[i]? = some y ∨ i = xs.length ∧ x = y := by
  rcases Nat.lt_or_ge i xs.length with hlt | hge
  · rw [List.getElem?_append_left hlt]
    exact ⟨Or.inl, fun h => h.resolve_right fun hlast => by omega⟩
  · rw [List.getElem?_append_right hge, List.getElem?_eq_none hge]
    rcases Nat.eq_or_lt_of_le hge with rfl | hgt
    · simp
    · have hpast : [x][i - xs.length]? = none := List.getElem?_eq_none (by simp; omega)
      rw [hpast]
      simp only [reduceCtorEq, false_or, false_iff]
      exact fun h => Nat.ne_of_gt hgt h.1

namespace Title

/-! ### One title -/

/-- A title is taken if a title in use differs from it in case at most. -/
def Taken (titles : List Text) (wanted : Text) : Prop :=
  ∃ title ∈ titles, Text.lower title = Text.lower wanted

instance (titles : List Text) (wanted : Text) : Decidable (Taken titles wanted) :=
  inferInstanceAs (Decidable (∃ title ∈ titles, Text.lower title = Text.lower wanted))

/-- The digit runs behind a wanted title among the titles in use. -/
def runsBehind (titles : List Text) (wanted : Text) : List (List Nat) :=
  numbersBehind wanted.toList 0 (joined titles)

/-- A wanted title fits if it is not taken, or can be told apart by a number that is not too
long. -/
def Fits (titles : List Text) (wanted : Text) : Prop :=
  Taken titles wanted →
    (∀ digits ∈ runsBehind titles wanted, digits.length ≤ maxTitleDigits) ∧
      highest (runsBehind titles wanted) + 1 < 10 ^ maxTitleDigits

/-- The title that is given to a sheet. -/
def given (titles : List Text) (wanted : Text) : Text :=
  if Taken titles wanted ∧ runsBehind titles wanted ≠ [] then
    wanted ++ toString (highest (runsBehind titles wanted) + 1)
  else wanted

theorem any_lower_iff (titles : List Text) (wanted : Text) :
    (titles.any fun title => Text.lower title == Text.lower wanted) = true ↔
      Taken titles wanted := by
  simp [Taken]

private theorem one_lt_pow_maxTitleDigits : 1 < 10 ^ maxTitleDigits :=
  Nat.one_lt_pow (by decide) (by decide)

theorem unique_eq_ok_iff {titles : List Text} {wanted title : Text} :
    unique titles wanted = .ok title ↔ Fits titles wanted ∧ title = given titles wanted := by
  unfold unique
  by_cases htaken : Taken titles wanted
  · rw [if_pos ((any_lower_iff titles wanted).mpr htaken)]
    rw [← runsBehind]
    unfold Fits given
    cases hruns : runsBehind titles wanted with
    | nil =>
      -- the search finds nothing, not even the title that is taken
      have hfits : highest [] + 1 < 10 ^ maxTitleDigits := one_lt_pow_maxTitleDigits
      simp [hfits, eq_comm]
    | cons run rest =>
      simp only [htaken, true_implies, ne_eq, reduceCtorEq, not_false_eq_true, and_self, if_true]
      -- the first run that is too long refuses the title
      cases hlong : (run :: rest).find? fun digits => maxTitleDigits < digits.length with
      | some digits =>
        have hmem := List.mem_of_find?_eq_some hlong
        have hlen := List.find?_some hlong
        refine ⟨fun h => (by cases h), fun h => absurd (h.1.1 digits hmem) ?_⟩
        simpa using hlen
      | none =>
        have hshort : ∀ digits ∈ run :: rest, digits.length ≤ maxTitleDigits := by
          intro digits hd
          simpa using List.find?_eq_none.mp hlong digits hd
        dsimp only
        rw [Nat.pow_eq]
        -- all runs can be read, and the next number decides
        by_cases hnext : 10 ^ maxTitleDigits ≤ highest (run :: rest) + 1
        · rw [if_pos hnext]
          exact ⟨fun h => (by cases h), fun h => absurd h.1.2 (Nat.not_lt.mpr hnext)⟩
        · rw [if_neg hnext, Except.ok.injEq]
          exact ⟨fun h => ⟨⟨hshort, Nat.lt_of_not_le hnext⟩, h.symm⟩, fun h => h.2.symm⟩
  · -- a title that is not taken is given as it is
    rw [if_neg (mt (any_lower_iff titles wanted).mp htaken), Except.ok.injEq]
    have hfits : Fits titles wanted := fun h => absurd h htaken
    have hgiven : given titles wanted = wanted := if_neg fun h => htaken h.1
    rw [hgiven]
    exact ⟨fun h => ⟨hfits, h.symm⟩, fun h => h.2.symm⟩

/-- **Which titles are given.** -/
theorem choose_eq_ok_iff {titles : List Text} {wanted title : Text} :
    choose titles wanted = .ok title ↔
      (∀ c ∈ wanted.toList, isInvalidChar c = false) ∧ Fits titles wanted ∧
        title = given titles wanted := by
  unfold choose
  cases hfind : wanted.toList.find? isInvalidChar with
  | some c =>
    have hmem := List.mem_of_find?_eq_some hfind
    have hbad := List.find?_some hfind
    refine ⟨fun h => (by cases h), fun h => ?_⟩
    rw [h.1 c hmem] at hbad
    cases hbad
  | none =>
    have hvalid : ∀ c ∈ wanted.toList, isInvalidChar c = false := fun c hc =>
      Bool.eq_false_iff.mpr (List.find?_eq_none.mp hfind c hc)
    exact unique_eq_ok_iff.trans ⟨fun h => ⟨hvalid, h⟩, fun h => h.2⟩

/-- A given title is the wanted one, with a number behind it only if it is taken. -/
theorem given_eq_or (titles : List Text) (wanted : Text) :
    given titles wanted = wanted ∨
      Taken titles wanted ∧ ∃ n : Nat, given titles wanted = wanted ++ toString n := by
  unfold given
  split
  next h => exact Or.inr ⟨h.1, _, rfl⟩
  next => exact Or.inl rfl

/-! ### Titles one after the other -/

/-- The titles in use once sheets of these names have been titled. -/
def extend (titles : List Text) (names : List Text) : List Text :=
  names.foldl (fun titles name => titles ++ [given titles name]) titles

theorem extend_append_singleton (titles names : List Text) (name : Text) :
    extend titles (names ++ [name])
      = extend titles names ++ [given (extend titles names) name] := by
  rw [extend, List.foldl_append]
  rfl

/-- Every name fits beside the titles before it. -/
def AllFit (titles : List Text) (names : List Text) : Prop :=
  ∀ i name, names[i]? = some name → Fits (extend titles (names.take i)) name

theorem allFit_nil (titles : List Text) : AllFit titles [] := by
  intro i name h
  simp at h

theorem AllFit.append_singleton {titles names : List Text} {name : Text}
    (h : AllFit titles names) (hname : Fits (extend titles names) name) :
    AllFit titles (names ++ [name]) := by
  intro i wanted hi
  rcases getElem?_append_singleton_iff.mp hi with hi | ⟨rfl, rfl⟩
  · -- the titles before an earlier name are the same as without the new one
    have hlt : i < names.length := (List.getElem?_eq_some_iff.mp hi).1
    rw [List.take_append_of_le_length (Nat.le_of_lt hlt)]
    exact h i wanted hi
  · simpa using hname

/-! ### A number that is too long -/

/-- A find is passed over to its end. -/
theorem numbersBehind_skip (title : List CodePoint) {text : List CodePoint} {skip : Nat}
    (h : text.length ≤ skip) : numbersBehind title skip text = [] := by
  induction text generalizing skip with
  | nil => rfl
  | cons c rest ih =>
    cases skip with
    | zero => simp at h
    | succ skip => exact ih (Nat.le_of_succ_le_succ h)

/-- Where a title stands first as it is and then with nines behind it, both are found. -/
theorem numbersBehind_nines (n : Nat) :
    numbersBehind [.char 'a'] 0
        (.char 'a' :: .char ',' :: .char 'a' :: List.replicate n (.char '9'))
      = [[], List.replicate n 9] := by
  have hcomma : isDigit (.char ',') = false := by decide
  have hnine : digit? (.char '9') = some 9 := by decide
  have hdigit : isDigit (.char '9') = true := by decide
  -- the comma ends the first run, so that it has no digit
  have hfirst : findHere? [.char 'a']
      (.char 'a' :: .char ',' :: .char 'a' :: List.replicate n (.char '9')) = some ⟨[], 2⟩ := by
    simp [findHere?, dropTitle?, Text.sameIgnoringCase_refl, hcomma]
  have hsecond : findHere? [.char 'a'] (.char 'a' :: List.replicate n (.char '9'))
      = some ⟨List.replicate n 9, 1 + n⟩ := by
    simp only [findHere?, dropTitle?, Text.sameIgnoringCase_refl, if_true, List.takeWhile_replicate,
      List.dropWhile_replicate, hdigit, List.filterMap_replicate_of_some hnine]
    simp
  rw [numbersBehind, hfirst]
  change [] :: numbersBehind [.char 'a'] 0 (.char 'a' :: List.replicate n (.char '9')) = _
  rw [numbersBehind, hsecond]
  change [] :: List.replicate n 9
    :: numbersBehind [.char 'a'] (1 + n - 1) (List.replicate n (.char '9')) = _
  rw [numbersBehind_skip [.char 'a'] (by simp)]

end Title

end Gridwork
