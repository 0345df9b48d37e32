import Gridwork.Proofs.Lists
import Gridwork.Proofs.Number.Numeral
import Gridwork.Proofs.Text.Ascii
import Gridwork.Proofs.Workbook.Title
import Mathlib.Data.List.Infix

/-!
# What the search for a title comes to

A number behind a title makes it a new one only if the search sees the numbers that are in use. The
search goes from left to right through all titles, written one after the other with commas between
them, and takes up again behind what it has found. So it may have passed over the place where a
title begins: a find can reach beyond a comma, if the wanted title has a comma itself.

`Title.Overtakes` says when that can happen to a title that goes on with the wanted one: the wanted
title begins again behind one of its own commas. Otherwise the search comes to every such title
(`mem_numbersBehind`), and the title that is given is not in use (`given_not_mem`).
-/

namespace Gridwork

/-! ### Commas -/

namespace Text

theorem isDecimalDigit_comma : isDecimalDigit ',' = false := by decide

/-- Only the comma becomes a comma in lower case. -/
theorem eq_comma_of_lowerSimple {c : Char} (h : lowerSimple c = ',') : c = ',' := by
  -- every run of the table leads to code points above that of the comma
  have hruns : ∀ run ∈ CaseTable.lowerRuns.toList, 44 < (run.first : Int) + run.offset := by
    decide +kernel
  have hpoint : ∀ n, Char.ofNat n = ',' → n = 44 := by
    intro n hn
    by_cases hvalid : n.isValidChar
    · rw [Char.ofNat, dif_pos hvalid] at hn
      exact congrArg Char.toNat hn
    · rw [Char.ofNat, dif_neg hvalid] at hn
      cases hn
  -- the three ways of lower case: below the table, by a special case, by the table
  unfold lowerSimple at h
  split at h
  · next hlow =>
    exact of_forall_ascii (P := fun c => c.toLower = ',' → c = ',') (by decide +kernel) hlow h
  · split at h
    · cases h
    · split at h
      · cases h
      · unfold mapByRuns at h
        split at h
        · next n hn =>
          obtain ⟨run, hrun, himage⟩ := Array.exists_of_findSome?_eq_some hn
          have habove := hruns run (Array.mem_toList_iff.mpr hrun)
          have hvalue := hpoint n h
          unfold CaseRun.image? at himage
          split at himage
          · have himage := Option.some.inj himage
            omega
          · cases himage
        · exact h

/-- No other character is taken for a comma. -/
theorem eq_comma_of_sameCharIgnoringCase {c : Char} (h : sameCharIgnoringCase c ',' = true) :
    c = ',' := by
  have hfolds : ∀ fold ∈ CaseTable.folds.toList, ¬ fold.2.contains ','.toNat = true := by
    decide +kernel
  unfold sameCharIgnoringCase at h
  dsimp only at h
  -- the same in lower case, or by a fold, and no fold has a comma
  rcases Bool.or_eq_true_iff.mp h with h | h
  · exact eq_comma_of_lowerSimple (eq_of_beq h)
  · split at h
    · next found hfind =>
      exact absurd h (hfolds _ (Array.mem_toList_iff.mpr (Array.mem_of_find?_eq_some hfind)))
    · cases h

theorem eq_comma_of_sameIgnoringCase {c : CodePoint} (h : sameIgnoringCase c ',' = true) :
    c = ',' := by
  cases c with
  | char c => exact congrArg CodePoint.char (eq_comma_of_sameCharIgnoringCase h)
  | high | low => cases h

end Text

namespace Title

theorem isDigit_comma : isDigit ',' = false := Text.isDecimalDigit_comma

/-! ### One find -/

/-- A text begins with a title, case aside, if it does so character by character. -/
theorem dropTitle?_eq_some_iff {title text rest : List CodePoint} :
    dropTitle? title text = some rest ↔
      ∃ found, text = found ++ rest ∧
        List.Forall₂ (fun t c => Text.sameIgnoringCase t c = true) title found := by
  induction title generalizing text with
  | nil =>
    rw [dropTitle?, Option.some.injEq]
    constructor
    · rintro rfl
      exact ⟨[], rfl, .nil⟩
    · rintro ⟨found, htext, hfound⟩
      cases hfound
      exact htext
  | cons t title ih =>
    cases text with
    | nil =>
      simp only [dropTitle?, reduceCtorEq, false_iff]
      rintro ⟨found, htext, hfound⟩
      cases hfound
      cases htext
    | cons c text =>
      rw [dropTitle?]
      split
      · next hsame =>
        rw [ih]
        constructor
        · rintro ⟨found, rfl, hfound⟩
          exact ⟨c :: found, rfl, .cons hsame hfound⟩
        · rintro ⟨_, htext, hfound⟩
          cases hfound with
          | cons _ hfound => exact ⟨_, (List.cons.inj htext).2, hfound⟩
      · next hdiffers =>
        simp only [reduceCtorEq, false_iff]
        rintro ⟨_, htext, hfound⟩
        cases hfound with
        | cons hsame _ =>
          rw [(List.cons.inj htext).1] at hdiffers
          exact hdiffers hsame

theorem dropTitle?_self (title rest : List CodePoint) :
    dropTitle? title (title ++ rest) = some rest :=
  dropTitle?_eq_some_iff.mpr
    ⟨title, rfl, List.forall₂_same.mpr fun c _ => Text.sameIgnoringCase_refl c⟩

/-- The digits that a text begins with. -/
def leadingDigits (text : List CodePoint) : List Nat :=
  (text.takeWhile isDigit).filterMap digit?

/-- How many characters a find takes behind the title: digits, and one comma. -/
def reach (text : List CodePoint) : Nat :=
  (leadingDigits text).length + ((text.dropWhile isDigit).take 1).count (.char ',')

theorem findHere?_eq_some_iff {title text : List CodePoint} {find : Find} :
    findHere? title text = some find ↔
      ∃ rest, dropTitle? title text = some rest ∧
        find = ⟨leadingDigits rest, title.length + reach rest⟩ := by
  unfold findHere?
  cases dropTitle? title text with
  | none => simp
  | some rest =>
    simp only [Option.some.injEq, exists_eq_left', reach, leadingDigits, Nat.add_assoc]
    exact eq_comm

/-- Behind the title a find ends with the first comma at the latest. -/
theorem reach_le (text rest : List CodePoint) :
    reach (text ++ .char ',' :: rest) ≤ text.length + 1 := by
  induction text with
  | nil =>
    have hcomma : isDigit (.char ',') = false := isDigit_comma
    simp [reach, leadingDigits, hcomma]
  | cons c text ih =>
    rw [List.cons_append, List.length_cons]
    by_cases hdigit : isDigit c = true
    · -- a digit is taken, and what follows it as before
      obtain ⟨d, hd⟩ := Option.isSome_iff_exists.mp hdigit
      have hstep : reach (c :: (text ++ .char ',' :: rest))
          = reach (text ++ .char ',' :: rest) + 1 := by
        simp only [reach, leadingDigits, List.takeWhile_cons, List.dropWhile_cons, hdigit, if_true,
          List.filterMap_cons, hd, List.length_cons]
        omega
      omega
    · have hcount := List.count_le_length (a := .char ',') (l := [c])
      simp only [reach, leadingDigits, List.takeWhile_cons, List.dropWhile_cons, hdigit,
        Bool.false_eq_true, if_false, List.filterMap_nil, List.length_nil, List.take_succ_cons,
        List.take_zero]
      simp only [List.length_singleton] at hcount
      omega

/-- A find takes nothing behind the title if something else than a digit or a comma follows. -/
theorem reach_eq_zero {c : CodePoint} (hcomma : c ≠ .char ',') (hdigit : isDigit c = false)
    (rest : List CodePoint) : reach (c :: rest) = 0 := by
  simp [reach, leadingDigits, hdigit, hcomma]

/-! ### Finds that reach beyond a comma -/

/-- A title overtakes itself if it begins again behind one of its commas: its end there is the
beginning of the title, or there is nothing behind the comma and the title begins with what a find
takes behind a title. -/
def Overtakes (title : List CodePoint) : Prop :=
  ∃ i < title.length, title[i]? = some (.char ',') ∧
    if title.drop (i + 1) = [] then
      (title.head?.any fun c => c == .char ',' || isDigit c) = true
    else (dropTitle? (title.drop (i + 1)) title).isSome = true

instance (title : List CodePoint) : Decidable (Overtakes title) :=
  inferInstanceAs (Decidable (∃ i < title.length, title[i]? = some (.char ',') ∧
    if title.drop (i + 1) = [] then
      (title.head?.any fun c => c == .char ',' || isDigit c) = true
    else (dropTitle? (title.drop (i + 1)) title).isSome = true))

example : Overtakes ("a,a" : Text).toList ∧ ¬ Overtakes ("a,b" : Text).toList ∧
    ¬ Overtakes ("a1" : Text).toList := by decide

/-- A title without commas does not overtake itself. -/
theorem not_overtakes_of_comma_free {title : List CodePoint} (h : .char ',' ∉ title) :
    ¬ Overtakes title :=
  fun ⟨_, _, hcomma, _⟩ => h (List.mem_of_getElem? hcomma)

/-- A find in front of a comma, behind which the title stands again, ends with that comma at the
latest, unless the title overtakes itself. -/
theorem length_le_of_findHere? {title before tail : List CodePoint} {find : Find}
    (hover : ¬ Overtakes title)
    (h : findHere? title (before ++ .char ',' :: (title ++ tail)) = some find) :
    find.length ≤ before.length + 1 := by
  obtain ⟨rest, hdrop, rfl⟩ := findHere?_eq_some_iff.mp h
  obtain ⟨found, htext, hfound⟩ := dropTitle?_eq_some_iff.mp hdrop
  have hlength := hfound.length_eq
  dsimp only
  -- where the found title ends: behind the place in front of the comma, or before it
  rcases List.append_eq_append_iff.mp htext with ⟨past, rfl, hbehind⟩ | ⟨gap, rfl, rfl⟩
  · cases past with
    | nil =>
      -- the found title ends in front of the comma, which may be taken
      have hreach := reach_le [] (title ++ tail)
      rw [List.nil_append, List.length_nil] at hreach
      rw [List.nil_append] at hbehind
      rw [← hbehind, hlength, List.append_nil]
      omega
    | cons c past =>
      obtain ⟨rfl, hrest⟩ := List.cons.inj hbehind
      change title ++ tail = past ++ rest at hrest
      -- the found title has the comma, so the wanted one has it too
      obtain ⟨t, ht, hsame⟩ := exists_getElem?_of_forall₂ hfound.flip
        (show (before ++ .char ',' :: past)[before.length]? = some (.char ',') by simp)
      obtain rfl : t = .char ',' := Text.eq_comma_of_sameIgnoringCase hsame
      have hlt : before.length < title.length := (List.getElem?_eq_some_iff.mp ht).1
      have hend : List.Forall₂ (fun t c => Text.sameIgnoringCase t c = true)
          (title.drop (before.length + 1)) past := by
        have hdropped := List.forall₂_drop (before.length + 1) hfound
        rwa [List.drop_append, List.drop_eq_nil_of_le (Nat.le_succ before.length), List.nil_append,
          Nat.add_sub_cancel_left, List.drop_succ_cons, List.drop_zero] at hdropped
      by_cases hnil : title.drop (before.length + 1) = []
      · -- the found title ends with the comma, and nothing of what follows is taken
        rw [hnil] at hend
        cases hend
        rw [List.nil_append] at hrest
        obtain ⟨c, title', rfl⟩ := List.exists_cons_of_length_pos (Nat.zero_lt_of_lt hlt)
        have hhead : ¬ (c == .char ',' || isDigit c) = true := fun hc =>
          hover ⟨before.length, hlt, ht, by rw [if_pos hnil]; exact hc⟩
        rw [Bool.or_eq_true, not_or, beq_iff_eq, Bool.not_eq_true] at hhead
        rw [← hrest, List.cons_append, reach_eq_zero hhead.1 hhead.2, hlength]
        simp
      · -- the found title ends with what the wanted one begins with
        refine absurd ⟨before.length, hlt, ht, ?_⟩ hover
        rw [if_neg hnil]
        have hle : past.length ≤ title.length := by
          rw [← hend.length_eq, List.length_drop]
          omega
        obtain ⟨more, rfl⟩ : past <+: title :=
          List.prefix_of_prefix_length_le ⟨rest, hrest.symm⟩ ⟨tail, rfl⟩ hle
        exact Option.isSome_iff_exists.mpr ⟨more, dropTitle?_eq_some_iff.mpr ⟨past, rfl, hend⟩⟩
  · -- the found title ends further in front
    have hreach := reach_le gap (title ++ tail)
    rw [hlength, List.length_append]
    omega

/-! ### The whole search -/

/-- The search comes to a title behind a comma, wherever it is in front of it. -/
theorem numbersBehind_suffix {title : List CodePoint} (hover : ¬ Overtakes title)
    (tail : List CodePoint) {before : List CodePoint} {skip : Nat}
    (hskip : skip ≤ before.length + 1) :
    numbersBehind title 0 (title ++ tail)
      <:+ numbersBehind title skip (before ++ .char ',' :: (title ++ tail)) := by
  -- one character after the other; what is to be skipped never reaches beyond the comma
  have hstep : ∀ (c : CodePoint) (before' rest : List CodePoint),
      c :: rest = before' ++ .char ',' :: (title ++ tail) →
      (∀ skip' ≤ before'.length, numbersBehind title 0 (title ++ tail)
        <:+ numbersBehind title skip' rest) →
      ∀ skip ≤ before'.length + 1, numbersBehind title 0 (title ++ tail)
        <:+ numbersBehind title skip (c :: rest) := by
    intro c before' rest htext hrest skip hskip
    cases skip with
    | succ skip => exact hrest skip (Nat.le_of_succ_le_succ hskip)
    | zero =>
      rw [numbersBehind]
      split
      · next find hfind =>
        rw [htext] at hfind
        have hle := length_le_of_findHere? hover hfind
        exact (hrest (find.length - 1) (by omega)).trans (List.suffix_cons _ _)
      · exact hrest 0 (Nat.zero_le _)
  induction before generalizing skip with
  | nil =>
    refine hstep (.char ',') [] (title ++ tail) rfl (fun skip' hskip' => ?_) skip hskip
    rw [Nat.le_zero.mp hskip']
  | cons c before ih =>
    exact hstep c (c :: before) _ rfl (fun skip' => ih) skip hskip

/-- **The digits behind a title are found** wherever the title stands at the start or behind a
comma. -/
theorem mem_numbersBehind {title : List CodePoint} (hover : ¬ Overtakes title) (hne : title ≠ [])
    {before : List CodePoint} (tail : List CodePoint)
    (hbefore : before = [] ∨ ∃ b, before = b ++ [.char ',']) :
    leadingDigits tail ∈ numbersBehind title 0 (before ++ (title ++ tail)) := by
  have hhere : leadingDigits tail ∈ numbersBehind title 0 (title ++ tail) := by
    obtain ⟨c, title', rfl⟩ := List.exists_cons_of_ne_nil hne
    have hfind := findHere?_eq_some_iff.mpr ⟨tail, dropTitle?_self (c :: title') tail, rfl⟩
    rw [List.cons_append] at hfind ⊢
    rw [numbersBehind, hfind]
    exact List.mem_cons_self
  rcases hbefore with rfl | ⟨b, rfl⟩
  · exact hhere
  · rw [List.append_assoc, List.singleton_append]
    exact (numbersBehind_suffix hover tail (Nat.zero_le _)).subset hhere

/-! ### The titles in use -/

theorem joined_cons_cons (title next : Text) (rest : List Text) :
    joined (title :: next :: rest) = title.toList ++ .char ',' :: joined (next :: rest) := by
  rw [joined, Text.intercalate_cons_cons, Text.toList_append, Text.toList_append, List.append_assoc]
  rfl

/-- A title in use stands between commas, or at one of the ends. -/
theorem exists_joined_eq {titles : List Text} {title : Text} (h : title ∈ titles) :
    ∃ before behind, joined titles = before ++ (title.toList ++ behind) ∧
      (before = [] ∨ ∃ b, before = b ++ [.char ',']) ∧
        (behind = [] ∨ ∃ b, behind = .char ',' :: b) := by
  -- along the titles; only the last one has no comma behind it
  induction titles with
  | nil => cases h
  | cons first rest ih =>
    cases rest with
    | nil =>
      obtain rfl := List.mem_singleton.mp h
      refine ⟨[], [], ?_, Or.inl rfl, Or.inl rfl⟩
      rw [joined, Text.intercalate_singleton, List.nil_append, List.append_nil]
    | cons second rest =>
      rw [joined_cons_cons]
      rcases List.mem_cons.mp h with rfl | h
      · exact ⟨[], _, rfl, Or.inl rfl, Or.inr ⟨_, rfl⟩⟩
      · obtain ⟨before, behind, heq, hbefore, hbehind⟩ := ih h
        refine ⟨first.toList ++ .char ',' :: before, behind, ?_, Or.inr ?_, hbehind⟩
        · rw [heq, List.append_assoc, List.cons_append]
        · rcases hbefore with rfl | ⟨b, rfl⟩
          · exact ⟨first.toList, rfl⟩
          · exact ⟨first.toList ++ .char ',' :: b, by simp⟩

/-- The digits of a title in use that is a wanted one and something behind it. -/
theorem mem_runsBehind {titles : List Text} {wanted : Text} {tail : List CodePoint}
    (hover : ¬ Overtakes wanted.toList) (hne : wanted ≠ "") {title : Text}
    (htitle : title.toList = wanted.toList ++ tail) (h : title ∈ titles) :
    ∃ behind, (behind = [] ∨ ∃ b, behind = .char ',' :: b) ∧
      leadingDigits (tail ++ behind) ∈ runsBehind titles wanted := by
  obtain ⟨before, behind, heq, hbefore, hbehind⟩ := exists_joined_eq h
  refine ⟨behind, hbehind, ?_⟩
  rw [runsBehind, heq, htitle, List.append_assoc]
  exact mem_numbersBehind hover (fun hnil => hne (Text.toList_inj.mp hnil)) _ hbefore

/-! ### The number behind a title -/

/-- A number in front of a comma is read as what it is. -/
theorem natOfDigits_leadingDigits (n : Nat) {behind : List CodePoint}
    (h : behind = [] ∨ ∃ b, behind = .char ',' :: b) :
    Text.natOfDigits (leadingDigits ((toString n : Text).toList ++ behind)) = n := by
  have hdigit : ∀ c ∈ (toString n : Text).toList, isDigit c = true := by
    intro _ hmem
    obtain ⟨c, hc, rfl⟩ := List.mem_map.mp hmem
    have hvalue := Text.decimalDigit?_of_isDigit (isDigit_of_mem_toString hc)
    exact Option.isSome_of_eq_some hvalue
  have hends : behind.takeWhile isDigit = [] := by
    rcases h with rfl | ⟨b, rfl⟩
    · rfl
    · rw [List.takeWhile_cons, isDigit_comma]
      rfl
  have hchars : (toString n : Text).toList.filterMap digit?
      = (toString n).toList.filterMap Text.decimalDigit? := by
    rw [Text.toList_ofString, List.filterMap_map]
    rfl
  rw [leadingDigits, List.takeWhile_append_of_pos hdigit, hends, List.append_nil, hchars]
  exact Text.natOfDigits_toString (fun _ => Text.decimalDigit?_of_isDigit) n

/-- No number that was found is above the highest. -/
theorem natOfDigits_le_highest {runs : List (List Nat)} {run : List Nat} (h : run ∈ runs) :
    Text.natOfDigits run ≤ highest runs := by
  -- the maximum so far never sinks
  have hgrows : ∀ (runs : List (List Nat)) (n : Nat),
      n ≤ runs.foldl (fun n digits => max n (Text.natOfDigits digits)) n ∧
        ∀ run ∈ runs, Text.natOfDigits run
          ≤ runs.foldl (fun n digits => max n (Text.natOfDigits digits)) n := by
    intro runs
    induction runs with
    | nil => exact fun n => ⟨Nat.le_refl n, fun _ h => by cases h⟩
    | cons first runs ih =>
      intro n
      obtain ⟨hle, hmem⟩ := ih (max n (Text.natOfDigits first))
      refine ⟨(Nat.le_max_left _ _).trans hle, List.forall_mem_cons.mpr ⟨?_, hmem⟩⟩
      exact (Nat.le_max_right _ _).trans hle
  exact (hgrows runs 0).2 run h

/-! ### The given title -/

/-- **A given title is not in use**, if the wanted one does not overtake itself or is not taken. -/
theorem given_not_mem {titles : List Text} {wanted : Text} (hne : wanted ≠ "")
    (hover : Taken titles wanted → ¬ Overtakes wanted.toList) : given titles wanted ∉ titles := by
  intro hmem
  unfold given at hmem
  split at hmem
  · next h =>
    -- the search has seen the title, so its number is not above the highest
    obtain ⟨behind, hbehind, hrun⟩ := mem_runsBehind (hover h.1) hne (Text.toList_append _ _) hmem
    have hle := natOfDigits_le_highest hrun
    rw [natOfDigits_leadingDigits _ hbehind] at hle
    omega
  · next h =>
    -- the wanted title is taken, so the search would have found it
    have htaken : Taken titles wanted := ⟨wanted, hmem, rfl⟩
    obtain ⟨_, -, hrun⟩ := mem_runsBehind (hover htaken) hne (List.append_nil _).symm hmem
    exact h ⟨htaken, List.ne_nil_of_mem hrun⟩

/-- No name of a list that is taken in its turn overtakes itself. -/
def NoneOvertakes (titles : List Text) (names : List Text) : Prop :=
  ∀ i < names.length, ∀ name ∈ names[i]?,
    Taken (extend titles (names.take i)) name → ¬ Overtakes name.toList

instance (titles names : List Text) : Decidable (NoneOvertakes titles names) :=
  inferInstanceAs (Decidable (∀ i < names.length, ∀ name ∈ names[i]?,
    Taken (extend titles (names.take i)) name → ¬ Overtakes name.toList))

/-- The names of sheets need no commas, and then they are all right. -/
theorem noneOvertakes_of_comma_free {titles names : List Text}
    (h : ∀ name ∈ names, .char ',' ∉ name.toList) : NoneOvertakes titles names :=
  fun _ _ name hname _ => not_overtakes_of_comma_free (h name (List.mem_of_getElem? hname))

/-- **Titles that are given one after the other are distinct**, if no name that is taken in its turn
overtakes itself. -/
theorem nodup_extend {names : List Text} (hne : ∀ name ∈ names, name ≠ "")
    (h : NoneOvertakes [] names) : (extend [] names).Nodup := by
  induction names using List.reverseRecOn with
  | nil => exact List.nodup_nil
  | append_singleton names name ih =>
    rw [extend_append_singleton, List.nodup_append]
    refine ⟨ih (fun n hn => hne n (List.mem_append_left _ hn)) ?_, List.pairwise_singleton _ _, ?_⟩
    · -- the titles before an earlier name are the same as without the last one
      intro i hlt n hn
      have hover := h i (by rw [List.length_append]; omega) n
      rw [List.getElem?_append_left hlt, List.take_append_of_le_length (Nat.le_of_lt hlt)] at hover
      exact hover hn
    -- the last one is new beside all before it
    · rintro title htitle _ hlast rfl
      have hover := h names.length (by simp) name (by simp)
      rw [List.take_left] at hover
      rw [List.mem_singleton.mp hlast] at htitle
      exact given_not_mem (hne name (by simp)) hover htitle

end Title

end Gridwork
