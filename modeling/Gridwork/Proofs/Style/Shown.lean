import Gridwork.Proofs.Json.Hereditary
import Gridwork.Style.Reading

/-!
# What errors of styles show

An error shows where it lies, and some show a value. `StyleError.Shows T P` says that the texts that
an error shows have the property `T` and that the trees that it shows have the property `P`. What
goes down the node of a style (`Json.Hereditary`) has every part of it, so the errors of reading the
style show nothing without it: `Style.shows_read`. Hence the wording of such an error and its field
have `T` (`StyleError.Shows.message`, `StyleError.Shows.field`), and there is a wording if every
whole number of the node can be written (`StyleError.isWorded_of_shows`).
-/

namespace Gridwork

variable {T : Text → Prop} {P : Json → Prop}

/-! ### Errors -/

namespace StyleError

/-- What an error shows has a property: `T` the texts, `P` the trees. -/
def Shows (T : Text → Prop) (P : Json → Prop) : StyleError → Prop
  | .notObject path => T path
  | .badAlignment value allowed path => P value ∧ T (Text.intercalate ", " allowed) ∧ T path
  | .colorNotObject path => T path
  | .missingChannel channel path => T channel ∧ T path
  | .channelNotInteger channel path => T channel ∧ T path
  | .channelOutOfRange channel value path => T channel ∧ P (.int value) ∧ T path
  | .flagNotBoolean path flag => T path ∧ T flag

variable {e : StyleError}

/-- The field is shown. -/
theorem Shows.field (h : e.Shows T P) : T e.field := by
  cases e with
  | notObject | colorNotObject => exact h
  | badAlignment | channelOutOfRange => exact h.2.2
  | missingChannel | channelNotInteger | flagNotBoolean => exact h.2

/-- The wording is made of what is shown. -/
theorem Shows.message (hP : Json.Hereditary T P) (h : e.Shows T P) {m : Text}
    (hm : e.message? = some m) : T m := by
  have text : ∀ s : String, T s := hP.string
  cases e with
  | notObject path | colorNotObject path =>
    obtain rfl := Option.some.inj hm
    exact hP.append (hP.append (text _) h) (text _)
  | badAlignment value allowed path =>
    obtain ⟨hvalue, hallowed, hpath⟩ := h
    obtain ⟨shown, hshown, rfl⟩ := Option.map_eq_some_iff.mp hm
    obtain ⟨-, rfl⟩ := Json.display?_eq_some_iff.mp hshown
    exact hP.append (hP.append (hP.append (hP.append (hP.append (hP.append (text _)
      (hP.display hvalue)) (text _)) hpath) (text _)) hallowed) (text _)
  | missingChannel channel path | channelNotInteger channel path =>
    obtain rfl := Option.some.inj hm
    exact hP.append (hP.append (hP.append (hP.append (text _) h.1) (text _)) h.2) (text _)
  | channelOutOfRange channel value path =>
    obtain ⟨hchannel, -, hpath⟩ := h
    rw [message?] at hm
    obtain ⟨shown, -, rfl⟩ := Option.map_eq_some_iff.mp hm
    exact hP.append (hP.append (hP.append (hP.append (hP.append (text _) hchannel) (text _)) hpath)
      (text _)) (text _)
  | flagNotBoolean path flag =>
    obtain rfl := Option.some.inj hm
    exact hP.append (hP.append (hP.append (hP.append (text _) h.1) (text _)) h.2) (text _)

/-- There is a wording unless a number is too long. -/
theorem isWorded_of_shows (h : e.Shows T (·.isWritable = true)) : e.isWorded = true := by
  cases e with
  | notObject | colorNotObject | missingChannel | channelNotInteger | flagNotBoolean => rfl
  | badAlignment value allowed path =>
    rw [isWorded, message?, Option.isSome_map, Json.isSome_display?]
    exact h.1
  | channelOutOfRange channel value path =>
    have hvalue : (Json.int value).isWritable = true := h.2.1
    rw [Json.isWritable_int] at hvalue
    rw [isWorded, message?, Whole.text?, if_pos hvalue]
    rfl

end StyleError

/-! ### Reading -/

namespace Style

/-- The errors of an attempt at reading all show what has a property. -/
def Shows {α : Type} (T : Text → Prop) (P : Json → Prop) (r : Except StyleError α) : Prop :=
  ∀ e, r = .error e → e.Shows T P

variable {α β : Type} {entries : Json.Entries} {path : Text}

theorem shows_ok (a : α) : Shows T P (.ok a) := fun _ he => by cases he

theorem shows_error {e : StyleError} (h : e.Shows T P) :
    Shows T P (.error e : Except StyleError α) := fun _ he => Except.error.inj he ▸ h

theorem Shows.bind {r : Except StyleError α} {f : α → Except StyleError β} (hr : Shows T P r)
    (hf : ∀ a, Shows T P (f a)) : Shows T P (r >>= f) := by
  cases r with
  | error e => exact shows_error (hr e rfl)
  | ok a => exact hf a

/-- Whatever is no word is shown. -/
theorem shows_readWord (hpath : T path) {words : List (Text × α)}
    (hwords : T (Text.intercalate ", " (words.map (·.1)))) {v : Json} (hv : P v) :
    Shows T P (readWord words path v) := by
  cases v with
  | null => exact shows_ok none
  | str s =>
    rw [readWord]
    cases words.lookup (Text.upper s) with
    | some a => exact shows_ok _
    | none => exact shows_error ⟨hv, hwords, hpath⟩
  | bool | int | float | arr | obj => exact shows_error ⟨hv, hwords, hpath⟩

section Parts

variable (hP : Json.Hereditary T P) (hpath : T path)
include hP hpath

theorem shows_readAlignment {v : Json} (hv : P v) : Shows T P (readAlignment path v) := by
  have hhorizontal : Text.isEncodable (Text.intercalate ", " (horizontalWords.map (·.1))) = true :=
    by decide
  have hvertical : Text.isEncodable (Text.intercalate ", " (verticalWords.map (·.1))) = true := by
    decide
  cases v with
  | null => exact shows_ok _
  | obj entries =>
    have hplace : ∀ name : String, T (path ++ "." ++ name) := fun name =>
      hP.dot hpath (hP.string name)
    refine (shows_readWord (hplace _) (hP.of_isEncodable hhorizontal)
      (hP.value hv _)).bind fun _ => ?_
    exact (shows_readWord (hplace _) (hP.of_isEncodable hvertical)
      (hP.value hv _)).bind fun _ => shows_ok _
  | bool | int | float | str | arr => exact shows_error hpath

theorem shows_readChannel (hentries : P (.obj entries)) (channel : String) :
    Shows T P (readChannel entries channel path) := by
  have hchannel := hP.string channel
  unfold readChannel
  split
  · exact shows_error ⟨hchannel, hpath⟩
  · next n hn =>
    split
    · exact shows_ok _
    · exact shows_error ⟨hchannel, hP.get? hentries hn, hpath⟩
  · exact shows_error ⟨hchannel, hpath⟩

theorem shows_readColor {v : Json} (hv : P v) : Shows T P (readColor path v) := by
  cases v with
  | null => exact shows_ok _
  | obj entries =>
    have hchannel := shows_readChannel hP hpath hv
    exact (hchannel _).bind fun _ => (hchannel _).bind fun _ => (hchannel _).bind fun _ =>
      shows_ok _
  | bool | int | float | str | arr => exact shows_error hpath

theorem shows_readFlag (name : String) (v : Json) : Shows T P (readFlag path name v) := by
  cases v with
  | null | bool => exact shows_ok _
  | int | float | str | arr | obj => exact shows_error ⟨hpath, hP.string _⟩

theorem shows_readBorderFlag (entries : Json.Entries) (name short : String) :
    Shows T P (readBorderFlag entries path name short) := by
  refine (shows_readFlag hP hpath name _).bind fun full => ?_
  split
  · exact shows_ok _
  · exact (shows_readFlag hP hpath short _).bind fun _ => shows_ok _

theorem shows_readBorders (entries : Json.Entries) : Shows T P (readBorders entries path) := by
  have hflag := shows_readBorderFlag hP hpath entries
  exact (hflag _ _).bind fun _ => (hflag _ _).bind fun _ => (hflag _ _).bind fun _ =>
    (hflag _ _).bind fun _ => (hflag _ _).bind fun _ => (hflag _ _).bind fun _ =>
    (hflag _ _).bind fun _ => shows_ok _

/-- **The errors of reading a style show only parts of it.** -/
theorem shows_read {spec : Json} (hspec : P spec) : Shows T P (read path spec) := by
  cases spec with
  | obj entries =>
    have hpart := hP.field hspec
    have hplace : ∀ name : String, T (path ++ "." ++ name) := fun name =>
      hP.dot hpath (hP.string name)
    have hflag := shows_readFlag hP hpath
    refine (shows_readAlignment hP (hplace _) (hpart _)).bind fun _ => ?_
    exact (shows_readColor hP (hplace _) (hpart _)).bind fun _ =>
      (shows_readColor hP (hplace _) (hpart _)).bind fun _ =>
      (hflag _ _).bind fun _ => (hflag _ _).bind fun _ => (hflag _ _).bind fun _ =>
      (shows_readBorders hP hpath _).bind fun _ => shows_ok _
  | null | bool | int | float | str | arr => exact shows_error hpath

end Parts

end Style

end Gridwork
