import Gridwork.Proofs.Build.Interchange
import Gridwork.Proofs.Lists
import Gridwork.Proofs.Style.Color
import Gridwork.Proofs.Style.Shown
import Mathlib.Algebra.Group.Int.Defs

/-!
# Which styles are accepted and what they show

The grammar of styles (`Json.IsStyle`): a style is an object, and each of its parts is absent, null
or of the kind that belongs to it. An alignment is an object with words of the two vocabularies, a
colour an object with three whole numbers, a flag a truth value. A border flag has two names, and
the short one counts only if the full one does not set the flag.

`Style.read_grammar` says that reading a style succeeds exactly for the nodes that follow the
grammar, and that a fresh cell then shows what the node asks for (`Json.Entries.Shown`). Neither
mentions where the style lies. A node that does not is refused, and with words as long as there is
no number in it that is too long to be written; `longChannel_unworded` is about one that there are
no words for.

For every function of the reader there are two lemmas, one that tells when it succeeds and one that
tells what it gives.
-/

namespace Gridwork

namespace Json

/-! ### The grammar -/

/-- Null, which also stands for what is absent, or something of a kind. -/
def NullOr (P : Json → Prop) (v : Json) : Prop := v = .null ∨ P v

/-- The value of a key, null if it is absent. -/
def Entries.value (entries : Entries) (key : Text) : Json := (entries.get? key).getD .null

/-- The value of a key; nothing but an object has keys. -/
def value (v : Json) (key : Text) : Json :=
  match v with
  | .obj entries => Entries.value entries key
  | _ => .null

/-- A word of a vocabulary, in any case. -/
def IsWord {α : Type} (words : List (Text × α)) (v : Json) : Prop :=
  ∃ s, v = .str s ∧ Text.upper s ∈ words.map Prod.fst

/-- An alignment: an object with words for the two directions. -/
inductive IsAlignment : Json → Prop
  | obj {entries : Entries}
      (hhorizontal : (Entries.value entries Field.horizontal).NullOr (IsWord Style.horizontalWords))
      (hvertical : (Entries.value entries Field.vertical).NullOr (IsWord Style.verticalWords)) :
      IsAlignment (.obj entries)

/-- A colour: an object with a whole number from 0 to 255 for each channel. -/
inductive IsColor : Json → Prop
  | obj {entries : Entries}
      (hchannel : ∀ channel ∈ [Field.red, Field.green, Field.blue],
        ∃ n, Entries.get? entries channel = some (.int n) ∧ 0 ≤ n ∧ n ≤ 255) :
      IsColor (.obj entries)

/-- A flag: a truth value. -/
def IsFlag (v : Json) : Prop := ∃ b, v = .bool b

/-- A border flag under its full name and, unless that sets it, under its short name. -/
structure Entries.HasBorderFlag (entries : Entries) (name short : Text) : Prop where
  full : (entries.field name).NullOr IsFlag
  short : entries.field name ≠ .bool true → (entries.value short).NullOr IsFlag

/-- A style: an object whose parts are absent, null or of their kinds. -/
inductive IsStyle : Json → Prop
  | obj {entries : Entries}
      (halignment : (Entries.field entries Field.alignment).NullOr IsAlignment)
      (hcolor : ∀ name ∈ [Field.textColor, Field.fillColor],
        (Entries.field entries name).NullOr IsColor)
      (hflag : ∀ name ∈ [Field.bold, Field.italic, Field.underline],
        (Entries.field entries name).NullOr IsFlag)
      (hborder : ∀ names ∈ Style.borderNames, Entries.HasBorderFlag entries names.1 names.2) :
      IsStyle (.obj entries)

/-! ### What a cell shows -/

/-- The value that a vocabulary gives for a word, and another one where no word is given. -/
inductive Selects {α : Type} (words : List (Text × α)) (default : α) : Json → Option α → Prop
  | word {s : Text} {a : α} (h : words.lookup (Text.upper s) = some a) :
      Selects words default (.str s) (some a)
  | absent : Selects words default .null (some default)

/-- The text of a colour: eight digits, of which the last six spell the channels. -/
inductive ShownColor : Json → Option String → Prop
  | absent : ShownColor .null none
  | given {entries : Entries} {text : String} {red green blue : Nat}
      (hred : Entries.get? entries Field.red = some (.int red))
      (hgreen : Entries.get? entries Field.green = some (.int green))
      (hblue : Entries.get? entries Field.blue = some (.int blue))
      (htext : Color.channels? (text.toList.rtake 6) = some (red, green, blue)) :
      ShownColor (.obj entries) (some text)

/-- A border flag is set under one of its names. -/
def Entries.Sets (entries : Entries) (name short : Text) : Prop :=
  entries.field name = .bool true ∨ entries.value short = .bool true

/-- What a fresh cell shows of a style. -/
structure Entries.Shown (entries : Entries) (a : Appearance) : Prop where
  horizontal : ((entries.field Field.alignment).value Field.horizontal).Selects
    Style.horizontalWords .general a.horizontal
  vertical : ((entries.field Field.alignment).value Field.vertical).Selects
    Style.verticalWords .bottom a.vertical
  color : (entries.field Field.textColor).ShownColor a.color
  fill : (entries.field Field.fillColor).ShownColor a.fill
  /-- A flag that is absent or null is not set. -/
  bold : a.bold = true ↔ entries.field Field.bold = .bool true
  italic : a.italic = true ↔ entries.field Field.italic = .bool true
  underline : a.underline = true ↔ entries.field Field.underline = .bool true
  /-- The flag for all edges, that for a pair of edges, and that for the edge add up. -/
  left : a.borders.left = true ↔ entries.Sets Field.borderAll "all" ∨
    entries.Sets Field.borderVertical Field.vertical ∨ entries.Sets Field.borderLeft "left"
  right : a.borders.right = true ↔ entries.Sets Field.borderAll "all" ∨
    entries.Sets Field.borderVertical Field.vertical ∨ entries.Sets Field.borderRight "right"
  top : a.borders.top = true ↔ entries.Sets Field.borderAll "all" ∨
    entries.Sets Field.borderHorizontal Field.horizontal ∨ entries.Sets Field.borderTop "top"
  bottom : a.borders.bottom = true ↔ entries.Sets Field.borderAll "all" ∨
    entries.Sets Field.borderHorizontal Field.horizontal ∨ entries.Sets Field.borderBottom "bottom"

end Json

namespace Style

open Json

variable {α : Type} {path name short : Text} {v : Json} {entries : Entries}

/-! ### Alignment -/

/-- A key is found exactly if it is that of a pair. -/
theorem exists_lookup_iff {words : List (Text × α)} {key : Text} :
    (∃ a, words.lookup key = some a) ↔ key ∈ words.map Prod.fst := by
  constructor
  · rintro ⟨a, ha⟩
    exact List.mem_map_of_mem (f := Prod.fst) (mem_of_lookup ha)
  · intro hmem
    obtain ⟨pair, hpair, rfl⟩ := List.mem_map.mp hmem
    cases hlookup : words.lookup pair.1 with
    | some a => exact ⟨a, rfl⟩
    | none =>
      have hne := List.lookup_eq_none_iff.mp hlookup pair hpair
      rw [bne_self_eq_false] at hne
      cases hne

theorem exists_readWord_iff (words : List (Text × α)) (path : Text) (v : Json) :
    (∃ r, readWord words path v = .ok r) ↔ v.NullOr (IsWord words) := by
  cases v with
  | null => exact iff_of_true ⟨none, rfl⟩ (Or.inl rfl)
  | str s =>
    rw [NullOr, IsWord, readWord]
    constructor
    · rintro ⟨r, hr⟩
      refine Or.inr ⟨s, rfl, exists_lookup_iff.mp ?_⟩
      cases hlookup : words.lookup (Text.upper s) with
      | some a => exact ⟨a, rfl⟩
      | none =>
        rw [hlookup] at hr
        cases hr
    · rintro (h | ⟨s', hs, hmem⟩)
      · cases h
      · obtain rfl := Json.str.inj hs
        obtain ⟨a, ha⟩ := exists_lookup_iff.mpr hmem
        exact ⟨some a, by rw [ha]⟩
  | bool | int | float | arr | obj =>
    refine iff_of_false ?_ ?_
    · rintro ⟨r, hr⟩
      cases hr
    · rintro (h | ⟨s, hs, -⟩)
      · cases h
      · cases hs

theorem selects_of_readWord {words : List (Text × α)} {r : Option α}
    (h : readWord words path v = .ok r) (default : α) :
    v.Selects words default (some (r.getD default)) := by
  cases v with
  | null =>
    obtain rfl := Except.ok.inj h
    exact .absent
  | str s =>
    rw [readWord] at h
    cases hlookup : words.lookup (Text.upper s) with
    | some a =>
      rw [hlookup] at h
      obtain rfl := Except.ok.inj h
      exact .word hlookup
    | none =>
      rw [hlookup] at h
      cases h
  | bool | int | float | arr | obj => cases h

theorem exists_readAlignment_iff (path : Text) (v : Json) :
    (∃ r, readAlignment path v = .ok r) ↔ v.NullOr IsAlignment := by
  cases v with
  | null => exact iff_of_true ⟨_, rfl⟩ (Or.inl rfl)
  | obj entries =>
    have hread : (∃ r, readAlignment path (.obj entries) = .ok r) ↔
        (Entries.value entries Field.horizontal).NullOr (IsWord horizontalWords) ∧
          (Entries.value entries Field.vertical).NullOr (IsWord verticalWords) := by
      rw [← exists_readWord_iff horizontalWords (path ++ "." ++ Field.horizontal),
        ← exists_readWord_iff verticalWords (path ++ "." ++ Field.vertical)]
      exact exists_bind_iff fun h _ => exists_bind_pure_iff
    rw [hread]
    constructor
    · exact fun ⟨hh, hv⟩ => Or.inr (.obj hh hv)
    · rintro (h | ⟨hh, hv⟩)
      · cases h
      · exact ⟨hh, hv⟩
  | bool | int | float | str | arr =>
    refine iff_of_false (fun ⟨r, hr⟩ => by cases hr) ?_
    rintro (h | h) <;> cases h

theorem selects_of_readAlignment {r : HorizontalAlignment × VerticalAlignment}
    (h : readAlignment path v = .ok r) :
    (v.value Field.horizontal).Selects horizontalWords .general (some r.1) ∧
      (v.value Field.vertical).Selects verticalWords .bottom (some r.2) := by
  cases v with
  | null =>
    obtain rfl := Except.ok.inj h
    exact ⟨.absent, .absent⟩
  | obj entries =>
    obtain ⟨horizontal, hhorizontal, h⟩ := bind_eq_ok_iff.mp h
    obtain ⟨vertical, hvertical, h⟩ := bind_eq_ok_iff.mp h
    obtain rfl := Except.ok.inj h
    exact ⟨selects_of_readWord hhorizontal .general, selects_of_readWord hvertical .bottom⟩
  | bool | int | float | str | arr => cases h

/-! ### Colours -/

theorem readChannel_eq_ok_iff {channel : Text} {c : Fin 256} :
    readChannel entries channel path = .ok c ↔
      entries.get? channel = some (.int (c.val : Int)) := by
  unfold readChannel
  constructor
  · intro h
    split at h
    · cases h
    · next n hn =>
      split at h
      · next hrange =>
        obtain rfl := Except.ok.inj h
        rw [hn]
        exact congrArg (some ∘ Json.int) (Int.toNat_of_nonneg hrange.2).symm
      · cases h
    · cases h
  · intro h
    rw [h]
    have hrange : (c.val : Int).toNat < 256 ∧ 0 ≤ (c.val : Int) :=
      ⟨by rw [Int.toNat_natCast]; exact c.isLt, Int.natCast_nonneg _⟩
    dsimp only
    rw [dif_pos hrange]
    exact congrArg Except.ok (Fin.ext (Int.toNat_natCast c.val))

theorem exists_readChannel_iff (entries : Entries) (channel path : Text) :
    (∃ c, readChannel entries channel path = .ok c) ↔
      ∃ n, entries.get? channel = some (.int n) ∧ 0 ≤ n ∧ n ≤ 255 := by
  simp only [readChannel_eq_ok_iff]
  constructor
  · rintro ⟨c, hc⟩
    exact ⟨c.val, hc, Int.natCast_nonneg _, by omega⟩
  · rintro ⟨n, hn, hlow, hhigh⟩
    refine ⟨⟨n.toNat, by omega⟩, ?_⟩
    rw [hn]
    exact congrArg (some ∘ Json.int) (Int.toNat_of_nonneg hlow).symm

theorem exists_readColor_iff (path : Text) (v : Json) :
    (∃ r, readColor path v = .ok r) ↔ v.NullOr IsColor := by
  cases v with
  | null => exact iff_of_true ⟨_, rfl⟩ (Or.inl rfl)
  | obj entries =>
    have hread : (∃ r, readColor path (.obj entries) = .ok r) ↔
        ∀ channel ∈ [Field.red, Field.green, Field.blue],
          ∃ n, Entries.get? entries channel = some (.int n) ∧ 0 ≤ n ∧ n ≤ 255 := by
      simp only [List.forall_mem_cons, List.not_mem_nil, IsEmpty.forall_iff, implies_true, and_true,
        ← exists_readChannel_iff entries _ path]
      exact exists_bind_iff fun red _ => exists_bind_iff fun green _ => exists_bind_pure_iff
    rw [hread]
    constructor
    · exact fun h => Or.inr (.obj h)
    · rintro (h | h)
      · cases h
      · cases h with
        | obj hchannel => exact hchannel
  | bool | int | float | str | arr =>
    refine iff_of_false (fun ⟨r, hr⟩ => by cases hr) ?_
    rintro (h | h) <;> cases h

theorem shownColor_of_readColor {c : Option Color} (h : readColor path v = .ok c) :
    v.ShownColor (c.map opaqueColor) := by
  cases v with
  | null =>
    obtain rfl := Except.ok.inj h
    exact .absent
  | obj entries =>
    obtain ⟨red, hred, h⟩ := bind_eq_ok_iff.mp h
    obtain ⟨green, hgreen, h⟩ := bind_eq_ok_iff.mp h
    obtain ⟨blue, hblue, h⟩ := bind_eq_ok_iff.mp h
    obtain rfl := Except.ok.inj h
    exact .given (readChannel_eq_ok_iff.mp hred) (readChannel_eq_ok_iff.mp hgreen)
      (readChannel_eq_ok_iff.mp hblue) (Color.channels?_opaqueColor ⟨red, green, blue⟩)
  | bool | int | float | str | arr => cases h

/-! ### Flags -/

theorem exists_readFlag_iff (path name : Text) (v : Json) :
    (∃ r, readFlag path name v = .ok r) ↔ v.NullOr IsFlag := by
  cases v with
  | null => exact iff_of_true ⟨_, rfl⟩ (Or.inl rfl)
  | bool b => exact iff_of_true ⟨_, rfl⟩ (Or.inr ⟨b, rfl⟩)
  | int | float | str | arr | obj =>
    refine iff_of_false (fun ⟨r, hr⟩ => by cases hr) ?_
    rintro (h | ⟨b, h⟩) <;> cases h

/-- A flag is set by the value true only. -/
theorem set_iff_of_readFlag {r : Option Bool} (h : readFlag path name v = .ok r) :
    r = some true ↔ v = .bool true := by
  cases v with
  | null =>
    obtain rfl := Except.ok.inj h
    exact iff_of_false (by decide) (by simp)
  | bool b =>
    obtain rfl := Except.ok.inj h
    rw [Option.some.injEq, Json.bool.injEq]
  | int | float | str | arr | obj => cases h

/-- A flag that is absent is not set. -/
theorem getD_false_iff (r : Option Bool) : r.getD false = true ↔ r = some true := by
  cases r with
  | none => exact iff_of_false (by decide) (by simp)
  | some b => rw [Option.getD_some, Option.some.injEq]

/-- The short name of a border flag is read unless the full one sets it. -/
theorem readBorderFlag_eq (entries : Entries) (path name short : Text) :
    readBorderFlag entries path name short =
      (readFlag path name (entries.field name) >>= fun full =>
        if full = some true then pure true
        else readFlag path short (entries.value short) >>= fun r => pure (r.getD false)) := by
  unfold readBorderFlag
  congr 1
  funext full
  match full with
  | some true => rfl
  | some false => rfl
  | none => rfl

theorem exists_readBorderFlag_iff (entries : Entries) (path name short : Text) :
    (∃ b, readBorderFlag entries path name short = .ok b) ↔
      entries.HasBorderFlag name short := by
  have hshort : ∀ full, readFlag path name (entries.field name) = .ok full →
      ((∃ b, (if full = some true then pure true
        else readFlag path short (entries.value short) >>= fun r => pure (r.getD false))
          = Except.ok b) ↔
        (entries.field name ≠ .bool true → (entries.value short).NullOr IsFlag)) := by
    intro full hfull
    rw [Ne, ← set_iff_of_readFlag hfull]
    by_cases htrue : full = some true
    · rw [if_pos htrue]
      exact iff_of_true ⟨true, rfl⟩ fun hne => absurd htrue hne
    · rw [if_neg htrue, exists_bind_pure_iff, exists_readFlag_iff]
      exact ⟨fun h _ => h, fun h => h htrue⟩
  rw [readBorderFlag_eq, exists_bind_iff hshort, exists_readFlag_iff]
  exact ⟨fun ⟨hfull, h⟩ => ⟨hfull, h⟩, fun ⟨hfull, h⟩ => ⟨hfull, h⟩⟩

theorem sets_iff_of_readBorderFlag {b : Bool}
    (h : readBorderFlag entries path name short = .ok b) :
    b = true ↔ entries.Sets name short := by
  rw [readBorderFlag_eq] at h
  obtain ⟨full, hfull, h⟩ := bind_eq_ok_iff.mp h
  rw [Entries.Sets, ← set_iff_of_readFlag hfull]
  by_cases htrue : full = some true
  · rw [if_pos htrue] at h
    obtain rfl := Except.ok.inj h
    exact iff_of_true rfl (Or.inl htrue)
  · rw [if_neg htrue] at h
    obtain ⟨r, hr, h⟩ := bind_eq_ok_iff.mp h
    obtain rfl := Except.ok.inj h
    rw [getD_false_iff, set_iff_of_readFlag hr]
    exact (or_iff_right htrue).symm

/-! ### Borders -/

theorem exists_readBorders_iff (entries : Entries) (path : Text) :
    (∃ b, readBorders entries path = .ok b) ↔
      ∀ names ∈ borderNames, entries.HasBorderFlag names.1 names.2 := by
  simp only [borderNames, List.forall_mem_cons, List.not_mem_nil, IsEmpty.forall_iff, implies_true,
    and_true, ← exists_readBorderFlag_iff entries path]
  exact exists_bind_iff fun all _ => exists_bind_iff fun vertical _ =>
    exists_bind_iff fun horizontal _ => exists_bind_iff fun left _ => exists_bind_iff fun right _ =>
    exists_bind_iff fun top _ => exists_bind_pure_iff

/-- An edge carries a line if the flag for all edges, that for its pair or its own is set. -/
theorem ofFlags_edges (f : BorderFlags) :
    ((Borders.ofFlags f).left = true ↔ f.all = true ∨ f.vertical = true ∨ f.left = true) ∧
      ((Borders.ofFlags f).right = true ↔ f.all = true ∨ f.vertical = true ∨ f.right = true) ∧
      ((Borders.ofFlags f).top = true ↔ f.all = true ∨ f.horizontal = true ∨ f.top = true) ∧
      ((Borders.ofFlags f).bottom = true ↔
        f.all = true ∨ f.horizontal = true ∨ f.bottom = true) := by
  unfold Borders.ofFlags
  cases hall : f.all with
  | true => simp [Borders.full]
  | false => simp

/-- Which edges the flags of a style select. -/
theorem edges_of_readBorders {b : Borders} (h : readBorders entries path = .ok b) :
    (b.left = true ↔ entries.Sets Field.borderAll "all" ∨
      entries.Sets Field.borderVertical Field.vertical ∨ entries.Sets Field.borderLeft "left") ∧
    (b.right = true ↔ entries.Sets Field.borderAll "all" ∨
      entries.Sets Field.borderVertical Field.vertical ∨ entries.Sets Field.borderRight "right") ∧
    (b.top = true ↔ entries.Sets Field.borderAll "all" ∨
      entries.Sets Field.borderHorizontal Field.horizontal ∨ entries.Sets Field.borderTop "top") ∧
    (b.bottom = true ↔ entries.Sets Field.borderAll "all" ∨
      entries.Sets Field.borderHorizontal Field.horizontal ∨
        entries.Sets Field.borderBottom "bottom") := by
  obtain ⟨all, hall, h⟩ := bind_eq_ok_iff.mp h
  obtain ⟨vertical, hvertical, h⟩ := bind_eq_ok_iff.mp h
  obtain ⟨horizontal, hhorizontal, h⟩ := bind_eq_ok_iff.mp h
  obtain ⟨left, hleft, h⟩ := bind_eq_ok_iff.mp h
  obtain ⟨right, hright, h⟩ := bind_eq_ok_iff.mp h
  obtain ⟨top, htop, h⟩ := bind_eq_ok_iff.mp h
  obtain ⟨bottom, hbottom, h⟩ := bind_eq_ok_iff.mp h
  obtain rfl := Except.ok.inj h
  simp only [← sets_iff_of_readBorderFlag hall, ← sets_iff_of_readBorderFlag hvertical,
    ← sets_iff_of_readBorderFlag hhorizontal, ← sets_iff_of_readBorderFlag hleft,
    ← sets_iff_of_readBorderFlag hright, ← sets_iff_of_readBorderFlag htop,
    ← sets_iff_of_readBorderFlag hbottom]
  exact ofFlags_edges ⟨all, vertical, horizontal, left, right, top, bottom⟩

/-! ### Styles -/

theorem exists_read_iff (path : Text) (spec : Json) :
    (∃ s, read path spec = .ok s) ↔ spec.IsStyle := by
  cases spec with
  | obj entries =>
    have hread : (∃ s, read path (.obj entries) = .ok s) ↔
        (Entries.field entries Field.alignment).NullOr IsAlignment ∧
        (Entries.field entries Field.textColor).NullOr IsColor ∧
        (Entries.field entries Field.fillColor).NullOr IsColor ∧
        (Entries.field entries Field.bold).NullOr IsFlag ∧
        (Entries.field entries Field.italic).NullOr IsFlag ∧
        (Entries.field entries Field.underline).NullOr IsFlag ∧
        ∀ names ∈ borderNames, Entries.HasBorderFlag entries names.1 names.2 := by
      rw [← exists_readAlignment_iff (path ++ "." ++ Field.alignment),
        ← exists_readColor_iff (path ++ "." ++ Field.textColor),
        ← exists_readColor_iff (path ++ "." ++ Field.fillColor),
        ← exists_readFlag_iff path Field.bold, ← exists_readFlag_iff path Field.italic,
        ← exists_readFlag_iff path Field.underline, ← exists_readBorders_iff entries path]
      exact exists_bind_iff fun alignment _ => exists_bind_iff fun text _ =>
        exists_bind_iff fun fill _ => exists_bind_iff fun bold _ => exists_bind_iff fun italic _ =>
        exists_bind_iff fun underline _ => exists_bind_pure_iff
    rw [hread]
    constructor
    · rintro ⟨halignment, htext, hfill, hbold, hitalic, hunderline, hborder⟩
      exact .obj halignment (by simp [htext, hfill]) (by simp [hbold, hitalic, hunderline]) hborder
    · rintro ⟨halignment, hcolor, hflag, hborder⟩
      simp only [List.forall_mem_cons] at hcolor hflag
      obtain ⟨htext, hfill, -⟩ := hcolor
      obtain ⟨hbold, hitalic, hunderline, -⟩ := hflag
      exact ⟨halignment, htext, hfill, hbold, hitalic, hunderline, hborder⟩
  | null | bool | int | float | str | arr =>
    refine iff_of_false (fun ⟨s, hs⟩ => by cases hs) fun h => ?_
    cases h

theorem shown_of_read {s : Style} (h : read path (.obj entries) = .ok s) :
    Entries.Shown entries s.appearance := by
  obtain ⟨alignment, halignment, h⟩ := bind_eq_ok_iff.mp h
  obtain ⟨text, htext, h⟩ := bind_eq_ok_iff.mp h
  obtain ⟨fill, hfill, h⟩ := bind_eq_ok_iff.mp h
  obtain ⟨bold, hbold, h⟩ := bind_eq_ok_iff.mp h
  obtain ⟨italic, hitalic, h⟩ := bind_eq_ok_iff.mp h
  obtain ⟨underline, hunderline, h⟩ := bind_eq_ok_iff.mp h
  obtain ⟨borders, hborders, h⟩ := bind_eq_ok_iff.mp h
  obtain rfl := Except.ok.inj h
  obtain ⟨hhorizontal, hvertical⟩ := selects_of_readAlignment halignment
  obtain ⟨hleft, hright, htop, hbottom⟩ := edges_of_readBorders hborders
  exact {
    horizontal := hhorizontal
    vertical := hvertical
    color := shownColor_of_readColor htext
    fill := shownColor_of_readColor hfill
    bold := (getD_false_iff bold).trans (set_iff_of_readFlag hbold)
    italic := (getD_false_iff italic).trans (set_iff_of_readFlag hitalic)
    underline := (getD_false_iff underline).trans (set_iff_of_readFlag hunderline)
    left := hleft
    right := hright
    top := htop
    bottom := hbottom }

/-- **Which styles are accepted and what they show.** Wherever a node lies, it is read as a style
exactly if it follows the grammar, and is refused with an error of styles otherwise, which has a
wording unless a number in the node is too long to be written; a fresh cell then shows what the node
asks for. -/
theorem read_grammar (path : Text) (spec : Json) :
    ((∃ s, read path spec = .ok s) ↔ spec.IsStyle) ∧
    (¬ spec.IsStyle → ∃ e, read path spec = .error e ∧
      (spec.isWritable = true → e.isWorded = true)) ∧
    ∀ s, read path spec = .ok s →
      ∃ entries, spec = .obj entries ∧ Entries.Shown entries s.appearance := by
  refine ⟨exists_read_iff path spec, fun hnot => ?_, fun s hs => ?_⟩
  · cases hread : read path spec with
    | error e =>
      exact ⟨e, rfl, fun hwritable => StyleError.isWorded_of_shows
        (shows_read Json.hereditary_isWritable trivial hwritable e hread)⟩
    | ok s => exact absurd ((exists_read_iff path spec).mp ⟨s, hread⟩) hnot
  · obtain ⟨⟩ := (exists_read_iff path spec).mp ⟨s, hs⟩
    exact ⟨_, rfl, shown_of_read hs⟩

/-- A style with fields under older names, a word in mixed case, a colour, and border flags under
short names beside one that is not set under its full name. -/
def mixedEntries : Entries :=
  [("alinhamento", .obj [("horizontal", .str "Centro"), ("vertical", .null)]),
    ("corFundo", .obj [("R", .int 31), ("G", .int 78), ("B", .int 121)]), ("bold", .bool true),
    ("negrito", .int 0), ("bordaEsquerda", .bool false), ("left", .bool true),
    ("horizontal", .bool true)]

/-- That style is centred between left and right, filled, bold, and lined but for the right. -/
theorem read_grammar_mixed :
    (Json.obj mixedEntries).IsStyle ∧ Entries.Shown mixedEntries
      ⟨true, false, false, none, some "001F4E79", some .center, some .bottom,
        ⟨true, false, true, true⟩⟩ := by
  obtain ⟨haccepts, -, hshows⟩ := read_grammar "style" (.obj mixedEntries)
  have hread : read "style" (.obj mixedEntries)
      = .ok ⟨some .center, some .bottom, none, some ⟨31, 78, 121⟩, some true, none, none,
        ⟨true, false, true, true⟩⟩ := by decide +kernel
  obtain ⟨_, heq, hshown⟩ := hshows _ hread
  obtain rfl := Json.obj.inj heq
  exact ⟨haccepts.mp ⟨_, hread⟩, hshown⟩

/-- A style whose text has a colour with this amount of red. -/
def redText (n : Int) : Json :=
  .obj [("textColor", .obj [("R", .int n), ("G", .int 0), ("B", .int 0)])]

/-- A colour is refused for a number that is too large, but if the number is too long as well, there
are no words to refuse it with. -/
theorem longChannel_unworded :
    ¬ (redText (10 ^ 4300)).IsStyle ∧
      ∃ e, read "style" (redText (10 ^ 4300)) = .error e ∧ e.message? = none := by
  have hread : read "style" (redText (10 ^ 4300))
      = .error (.channelOutOfRange "R" (10 ^ 4300) "style.textColor") := by decide +kernel
  refine ⟨fun h => ?_, _, hread, ?_⟩
  · obtain ⟨s, hs⟩ := (exists_read_iff "style" _).mpr h
    rw [hread] at hs
    cases hs
  · rw [StyleError.message?, Option.map_eq_none_iff]
    decide +kernel

end Style

end Gridwork
