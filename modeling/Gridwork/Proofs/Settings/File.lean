import Gridwork.Proofs.Lists
import Gridwork.Proofs.Text.Utf8
import Gridwork.Settings.Sources
import Mathlib.Data.List.Basic
import Mathlib.Data.List.Induction

/-!
# Settings files of plain lines

A plain line (`SettingsFile.Line`) sets a name to a value, which stands behind the equals sign bare
or between quotes (`SettingsFile.Spells`). A file of such lines is read as the entries that they
state, in the order of the lines (`SettingsFile.read_textOf`), and the octets of the file are read
as its text (`SettingsFile.text?_encode`).

A line is read up to its end, so what comes in front of the next one is the end of the line before:
the induction over the lines allows for any blanks there (`SettingsFile.bindings_line`).
-/

namespace Gridwork

/-- Nothing is trimmed from a text without blanks at its ends. -/
theorem Text.trimChars_eq_self {p : Char → Bool} {cs : List Char}
    (hhead : ∀ c ∈ cs.head?, p c = false) (hlast : ∀ c ∈ cs.getLast?, p c = false) :
    trimChars p cs = cs := by
  have hdrop : ∀ s : List Char, (∀ c ∈ s.head?, p c = false) → s.dropWhile p = s := by
    intro s hs
    cases s with
    | nil => rfl
    | cons c s => rw [List.dropWhile_cons_of_neg (by simp [hs c rfl])]
  rw [trimChars, trimEndChars, hdrop cs hhead, hdrop cs.reverse (by rwa [List.head?_reverse]),
    List.reverse_reverse]

namespace SettingsFile

/-! ### Lines -/

/-- How a value is written behind the equals sign: bare, or between quotes. -/
inductive Spells : List Char → List Char → Prop
  | bare {value : List Char}
    (hhead : ∀ c ∈ value.head?, Text.isBlank c = false ∧ c ≠ '\'' ∧ c ≠ '"')
    (hlast : ∀ c ∈ value.getLast?, Text.isBlank c = false)
    (hline : ∀ c ∈ value, isLineEnd c = false)
    (hcomment : ∀ c, Text.isBlank c = true → ¬ [c, '#'] <:+: value) : Spells value value
  | quoted {quote : Char} {value : List Char} (hquote : quote = '\'' ∨ quote = '"')
    (hvalue : ∀ c ∈ value, c ≠ quote ∧ c ≠ '\\') : Spells (quote :: (value ++ [quote])) value

/-- A line that sets a name to a value. -/
structure Line where
  name : List Char
  spelling : List Char
  value : List Char
  name_ne : name ≠ []
  name_chars : ∀ c ∈ name, isNameChar c = true
  name_head : ∀ c ∈ name.head?, c ≠ '\'' ∧ c ≠ '\uFEFF'
  spells : Spells spelling value
  value_literal : ∀ c ∈ value, c ≠ '$'

/-- The text of a line, without its end. -/
def Line.text (l : Line) : List Char := l.name ++ '=' :: l.spelling

/-- A file of such lines. -/
def textOf (lines : List Line) : List Char := lines.flatMap fun l => l.text ++ ['\n']

variable {cs rest value : List Char} {quote c : Char}

/-! ### Values -/

/-- What follows characters of a kind stands directly behind one of them. -/
theorem exists_infix_of_dropWhile {p : Char → Bool} (hc : p c = true)
    (h : (c :: cs).dropWhile p = quote :: rest) : ∃ d, p d = true ∧ [d, quote] <:+: c :: cs := by
  have hne : (c :: cs).takeWhile p ≠ [] := by
    rw [List.takeWhile_cons_of_pos hc]
    exact List.cons_ne_nil _ _
  refine ⟨_, List.all_eq_true.mp List.all_takeWhile _ (List.getLast_mem hne),
    ((c :: cs).takeWhile p).dropLast, rest, ?_⟩
  calc ((c :: cs).takeWhile p).dropLast ++ [_, quote] ++ rest
      = ((c :: cs).takeWhile p).dropLast ++ [((c :: cs).takeWhile p).getLast hne]
          ++ quote :: rest := by simp
    _ = c :: cs := by rw [List.dropLast_concat_getLast, ← h, List.takeWhile_append_dropWhile]

/-- A hash that is nowhere begins no comment. -/
theorem not_infix_of_notMem (h : '#' ∉ cs) (c : Char) (_ : Text.isBlank c = true) :
    ¬ [c, '#'] <:+: cs := fun hpart => h (List.IsInfix.subset hpart (by simp))

theorem dropComment_eq_self (h : ∀ c, Text.isBlank c = true → ¬ [c, '#'] <:+: cs) :
    dropComment cs = cs := by
  induction cs with
  | nil => rfl
  | cons c cs ih =>
    have hbehind : dropComment cs = cs :=
      ih fun d hd hpart => h d hd (hpart.trans (List.suffix_cons c cs).isInfix)
    unfold dropComment
    rw [hbehind]
    split
    · next hblank =>
      split
      · next hdrop =>
        obtain ⟨d, hd, hpart⟩ := exists_infix_of_dropWhile hblank hdrop
        exact absurd hpart (h d hd)
      · rfl
    · rfl

theorem quotedPart_append (h : ∀ c ∈ value, c ≠ quote ∧ c ≠ '\\') (hquote : quote ≠ '\\')
    (rest : List Char) :
    quotedPart quote (value ++ quote :: rest) = some (value, rest) := by
  induction value with
  | nil =>
    rw [List.nil_append, quotedPart, if_pos rfl]
    exact fun _ _ heq => absurd heq hquote
  | cons c value ih =>
    obtain ⟨⟨hc, hslash⟩, hvalue⟩ := List.forall_mem_cons.mp h
    rw [List.cons_append, quotedPart, if_neg hc, ih hvalue]
    · rfl
    · exact fun _ _ heq => absurd heq hslash

theorem unescape_eq_self (h : ∀ c ∈ cs, c ≠ '\\') (quote : Char) : unescape quote cs = cs := by
  induction cs with
  | nil => rfl
  | cons c cs ih =>
    obtain ⟨hc, hcs⟩ := List.forall_mem_cons.mp h
    rw [unescape, ih hcs]
    exact fun _ _ heq => absurd heq hc

theorem skipInline_cons (h : isInlineBlank c = false) : skipInline (c :: rest) = c :: rest := by
  rw [skipInline, List.dropWhile_cons_of_neg (by simp [h])]

/-- A value between quotes is read as it is. -/
theorem readValue_quoted (hquote : quote = '\'' ∨ quote = '"')
    (h : ∀ c ∈ value, c ≠ quote ∧ c ≠ '\\') :
    readValue (quote :: (value ++ quote :: rest)) = some (value, rest) := by
  have hslash : quote ≠ '\\' := by rcases hquote with rfl | rfl <;> decide
  have hpart := quotedPart_append h hslash rest
  have hvalue := unescape_eq_self (fun c hc => (h c hc).2) quote
  rcases hquote with rfl | rfl
  · rw [readValue, skipInline_cons rfl]
    simp only [hpart, Option.map_some, hvalue]
  · rw [readValue, skipInline_cons rfl]
    simp only [hpart, Option.map_some, hvalue]

/-- A bare value is read as it is, up to the end of the line. -/
theorem readValue_bare (hhead : ∀ c ∈ value.head?, Text.isBlank c = false ∧ c ≠ '\'' ∧ c ≠ '"')
    (hlast : ∀ c ∈ value.getLast?, Text.isBlank c = false)
    (hline : ∀ c ∈ value, isLineEnd c = false)
    (hcomment : ∀ c, Text.isBlank c = true → ¬ [c, '#'] <:+: value) :
    readValue (value ++ '\n' :: rest) = some (value, '\n' :: rest) := by
  -- neither the value nor, if it is empty, the end of the line is a blank or a quote
  obtain ⟨c, behind, hcons, hc, hsingle, hdouble⟩ : ∃ c behind,
      value ++ '\n' :: rest = c :: behind ∧ isInlineBlank c = false ∧ c ≠ '\'' ∧ c ≠ '"' := by
    cases value with
    | nil => exact ⟨_, _, rfl, by decide⟩
    | cons c value =>
      obtain ⟨hblank, hquotes⟩ := hhead c rfl
      exact ⟨c, _, rfl, by simp [isInlineBlank, hblank], hquotes⟩
  have hskip : skipInline (value ++ '\n' :: rest) = value ++ '\n' :: rest := by
    rw [hcons]
    exact skipInline_cons hc
  unfold readValue
  rw [hskip]
  split
  · next heq => exact absurd (List.cons.inj (hcons.symm.trans heq)).1 hsingle
  · next heq => exact absurd (List.cons.inj (hcons.symm.trans heq)).1 hdouble
  · have hinner : ∀ c ∈ value, (!isLineEnd c) = true := fun c hc => by simp [hline c hc]
    have hend : (!isLineEnd '\n') = false := rfl
    obtain ⟨htake, hdrop⟩ := span_append_cons hinner hend rest
    dsimp only
    rw [htake, hdrop, dropComment_eq_self hcomment,
      Text.trimChars_eq_self (fun c hc => (hhead c hc).1) hlast]

theorem Spells.readValue (h : Spells cs value) :
    SettingsFile.readValue (cs ++ '\n' :: rest) = some (value, '\n' :: rest) := by
  cases h with
  | bare hhead hlast hline hcomment => exact readValue_bare hhead hlast hline hcomment
  | quoted hquote hvalue =>
    rw [List.cons_append, List.append_assoc, List.singleton_append]
    exact readValue_quoted hquote hvalue

/-! ### Reading lines -/

theorem isBlank_of_isNameChar (h : isNameChar c = true) : Text.isBlank c = false := by
  simp only [isNameChar, Bool.and_eq_true, Bool.not_eq_true'] at h
  exact h.2

/-- The first character of a name. -/
theorem Line.exists_cons (l : Line) : ∃ c name, l.name = c :: name ∧ Text.isBlank c = false ∧
    c ≠ '#' ∧ c ≠ '\'' ∧ c ≠ '\uFEFF' := by
  obtain ⟨c, name, hcons⟩ := List.exists_cons_of_ne_nil l.name_ne
  have hchar := l.name_chars c (by rw [hcons]; exact List.mem_cons_self)
  have hhead := l.name_head c (by rw [hcons]; rfl)
  have hhash : c ≠ '#' := by
    rintro rfl
    exact absurd hchar (by decide)
  exact ⟨c, name, hcons, isBlank_of_isNameChar hchar, hhash, hhead⟩

/-- A name may begin like the word `export`, but no blank follows it. -/
theorem skipExport_line (l : Line) (rest : List Char) :
    skipExport (l.name ++ '=' :: rest) = l.name ++ '=' :: rest := by
  unfold skipExport
  split
  · next hword =>
    obtain ⟨behind, hbehind⟩ := List.isPrefixOf_iff_prefix.mp hword
    -- the word ends within the name or with it, since there is no equals sign in it
    obtain ⟨c, text, htext, hc⟩ : ∃ c text, behind = c :: text ∧ isInlineBlank c = false := by
      rcases List.append_eq_append_iff.mp hbehind with ⟨more, hname, hmore⟩ | ⟨more, hword, hmore⟩
      · cases more with
        | nil => exact ⟨_, _, hmore, rfl⟩
        | cons c more =>
          have hchar := l.name_chars c (by rw [hname]; simp)
          exact ⟨c, _, hmore, by simp [isInlineBlank, isBlank_of_isNameChar hchar]⟩
      · cases more with
        | nil => exact ⟨_, _, hmore.symm, rfl⟩
        | cons c more =>
          have hmem : '=' ∈ "export".toList := by
            rw [hword, (List.cons.inj hmore).1]
            simp
          exact absurd hmem (by decide)
    have hdrop : (l.name ++ '=' :: rest).drop 6 = c :: text := by
      rw [← hbehind, htext]
      rfl
    dsimp only
    rw [hdrop, List.takeWhile_cons_of_neg (by simp [hc])]
    rfl
  · rfl

theorem readName_line (l : Line) (rest : List Char) :
    readName (l.name ++ '=' :: rest) = some (some l.name, '=' :: rest) := by
  obtain ⟨c, name, hcons, -, hhash, hquote, -⟩ := l.exists_cons
  have hequals : isNameChar '=' = false := by decide
  obtain ⟨htake, hdrop⟩ := span_append_cons l.name_chars hequals rest
  have hempty : l.name.isEmpty = false := by rw [hcons]; rfl
  unfold readName
  split
  · next heq =>
    rw [hcons] at heq
    exact absurd (List.cons.inj heq).1 hhash
  · next heq =>
    rw [hcons] at heq
    exact absurd (List.cons.inj heq).1 hquote
  · simp only [htake, hdrop, hempty]
    rfl

/-- **A line is read as the binding that it states.** -/
theorem readLine_line (l : Line) (rest : List Char) :
    readLine (l.text ++ '\n' :: rest) = .ok (some ⟨l.name, some l.value⟩, '\n' :: rest) := by
  have hassigned : readAssigned ('=' :: (l.spelling ++ '\n' :: rest))
      = .ok (some l.value, '\n' :: rest) := by
    rw [readAssigned, l.spells.readValue]
    rfl
  rw [Line.text, List.append_assoc, List.cons_append, readLine, skipExport_line, readName_line]
  change (readAssigned ('=' :: (l.spelling ++ '\n' :: rest)) >>= _) = _
  rw [hassigned]
  rfl

/-- Blanks hold no binding. -/
theorem bindings_of_forall_isBlank (h : ∀ c ∈ cs, Text.isBlank c = true) : bindings cs = [] := by
  have hdrop : cs.dropWhile Text.isBlank = [] := by
    rw [← List.append_nil cs, List.dropWhile_append_of_pos h, List.dropWhile_nil]
  rw [bindings]
  split
  · rfl
  · next hne => exact absurd hdrop hne

/-- The blanks in front of a line are passed over, and reading goes on at its end. -/
theorem bindings_line {blanks : List Char} (hblanks : ∀ c ∈ blanks, Text.isBlank c = true)
    (l : Line) (rest : List Char) : bindings (blanks ++ (l.text ++ '\n' :: rest))
      = ⟨l.name, some l.value⟩ :: bindings ('\n' :: rest) := by
  obtain ⟨c, name, hcons, hc, -⟩ := l.exists_cons
  have htext : l.text ++ '\n' :: rest = c :: (name ++ '=' :: l.spelling ++ '\n' :: rest) := by
    rw [Line.text, hcons]
    rfl
  have hdrop : (blanks ++ (l.text ++ '\n' :: rest)).dropWhile Text.isBlank
      = l.text ++ '\n' :: rest := by
    rw [List.dropWhile_append_of_pos hblanks, htext, List.dropWhile_cons_of_neg (by simp [hc])]
  have hread : readLineOrSkip (l.text ++ '\n' :: rest)
      = (some ⟨l.name, some l.value⟩, '\n' :: rest) := by
    rw [readLineOrSkip, readLine_line]
  have hlength : ('\n' :: rest).length < (blanks ++ (l.text ++ '\n' :: rest)).length := by
    rw [htext]
    simp
    omega
  rw [bindings]
  split
  · next hnil =>
    rw [hdrop, htext] at hnil
    cases hnil
  · rw [hdrop, hread]
    dsimp only
    rw [if_pos hlength]
    rfl

/-- **A file of lines holds the bindings that they state.** -/
theorem bindings_textOf (lines : List Line) :
    bindings (textOf lines) = lines.map fun l => ⟨l.name, some l.value⟩ := by
  -- behind the first line the end of the line before stands in front
  have hbehind : ∀ blanks : List Char, (∀ c ∈ blanks, Text.isBlank c = true) →
      bindings (blanks ++ textOf lines) = lines.map fun l => ⟨l.name, some l.value⟩ := by
    induction lines with
    | nil =>
      intro blanks hblanks
      rw [textOf, List.flatMap_nil, List.append_nil, bindings_of_forall_isBlank hblanks]
      rfl
    | cons l lines ih =>
      intro blanks hblanks
      have htext : textOf (l :: lines) = l.text ++ '\n' :: textOf lines := by
        simp [textOf]
      have hnext : bindings ('\n' :: textOf lines) = _ :=
        ih ['\n'] (List.forall_mem_singleton.mpr rfl)
      rw [htext, bindings_line hblanks, hnext, List.map_cons]
  exact hbehind [] (by simp)

/-! ### Entries -/

/-- The entry that a line stands for. -/
def Line.entry (l : Line) : String × Option String :=
  (String.ofList l.name, some (String.ofList l.value))

theorem Entries.set_of_notMem {entries : Entries} {name : String} (h : name ∉ entries.map Prod.fst)
    (v : Option String) : Entries.set name v entries = entries ++ [(name, v)] := by
  induction entries with
  | nil => rfl
  | cons entry entries ih =>
    obtain ⟨n, w⟩ := entry
    rw [List.map_cons, List.mem_cons, not_or] at h
    rw [set, if_neg (Ne.symm h.1), ih h.2, List.cons_append]

/-- A line adds its entry to those before it. -/
theorem bind_line {environment : List (String × String)} {earlier : Entries} {l : Line}
    (h : l.entry.1 ∉ earlier.map Prod.fst) :
    bind environment earlier ⟨l.name, some l.value⟩ = earlier ++ [l.entry] := by
  have hexpand := Reference.expand_of_forall_ne (referenced environment earlier) l.value
    l.value_literal
  rw [bind, Option.map_some, hexpand]
  exact Entries.set_of_notMem h _

theorem dropMark_textOf (lines : List Line) : dropMark (textOf lines) = textOf lines := by
  cases lines with
  | nil => rfl
  | cons l lines =>
    obtain ⟨c, name, hcons, -, -, -, hmark⟩ := l.exists_cons
    have htext : textOf (l :: lines)
        = c :: (name ++ '=' :: l.spelling ++ '\n' :: textOf lines) := by
      simp [textOf, Line.text, hcons]
    rw [htext, dropMark]
    exact fun _ heq => hmark (List.cons.inj heq).1

/-- **A file of lines of different names is read as its entries**, in the order of the lines. -/
theorem read_textOf {lines : List Line} (h : (lines.map fun l => l.entry.1).Nodup)
    (environment : List (String × String)) :
    read environment (textOf lines) = lines.map Line.entry := by
  rw [read, dropMark_textOf, bindings_textOf, List.foldl_map]
  induction lines using List.reverseRecOn with
  | nil => rfl
  | append_singleton lines l ih =>
    rw [List.map_append, List.map_singleton, List.nodup_append] at h
    rw [List.foldl_append, ih h.1, List.foldl_cons, List.foldl_nil, bind_line ?_, List.map_append,
      List.map_singleton]
    intro hmem
    rw [List.map_map] at hmem
    exact h.2.2 _ hmem _ List.mem_cons_self rfl

/-! ### Octets -/

theorem unifyLineEnds_eq_self (h : '\r' ∉ cs) : Text.unifyLineEnds cs = cs := by
  induction cs with
  | nil => rfl
  | cons c cs ih =>
    obtain ⟨hc, hcs⟩ := List.ne_and_not_mem_of_not_mem_cons h
    rw [Text.unifyLineEnds, ih hcs]
    · exact fun _ heq => absurd heq.symm hc
    · exact fun heq => absurd heq.symm hc

/-- A text without carriage returns is read from its octets as it is. -/
theorem text?_encode (h : '\r' ∉ cs) :
    (FileContent.octets (Text.Utf8.encode cs)).text? = some cs := by
  rw [FileContent.text?, Text.Utf8.decode_encode]
  exact congrArg some (unifyLineEnds_eq_self h)

end SettingsFile

end Gridwork
