import Gridwork.Storage.Store
import Mathlib.Data.List.Basic

/-!
# Names of files

The name of a file that is derived from a request has safe characters only, and behind them the
extension (`Filename.mem_derive`). So it is plain: a single part of a path, with nothing in it that
no path may hold (`Store.isPlainName_derive`, `Store.hasNul_child_derive`). Adding the extension
once more changes nothing (`Filename.withExtension_derive`).
-/

namespace Gridwork

namespace Text

/-- What the end of a text becomes in lower case is the end of what the text becomes. -/
theorem exists_suffix_lowerFrom (afterCased : Bool) (cs tail : List CodePoint) :
    ∃ b, lowerFrom b tail <:+ lowerFrom afterCased (cs ++ tail) := by
  induction cs generalizing afterCased with
  | nil => exact ⟨afterCased, List.suffix_rfl⟩
  | cons c cs ih =>
    obtain ⟨b, h⟩ := ih (if c.is isCaseIgnorable then afterCased else c.is isCased)
    exact ⟨b, h.trans (List.suffix_append _ _)⟩

end Text

namespace Filename

theorem isSafeChar_safeChar (c : CodePoint) : isSafeChar (safeChar c) = true := by
  have hmark : isSafeChar '_' = true := by decide
  cases c with
  | char c =>
    rw [safeChar]
    split
    · assumption
    · exact hmark
  | high | low => exact hmark

/-- A sanitized name has safe characters only. -/
theorem isSafeChar_of_mem_sanitize {t : Text} {c : Char} (h : c ∈ (sanitize t).toList) :
    isSafeChar c = true := by
  unfold sanitize at h
  dsimp only at h
  split at h
  · -- the fallback is made of letters
    have hfallback : ∀ c ∈ fallback.toList, isSafeChar c = true := List.all_eq_true.mp (by decide)
    exact hfallback c h
  · rw [String.toList_ofList] at h
    obtain ⟨d, -, rfl⟩ := List.mem_map.mp (List.mem_of_mem_take h)
    exact isSafeChar_safeChar d

theorem sanitize_ne_empty (t : Text) : sanitize t ≠ "" := by
  unfold sanitize
  dsimp only
  split
  · decide
  · next hnonempty =>
    intro hempty
    rw [← String.toList_inj, String.toList_ofList] at hempty
    exact hnonempty (List.isEmpty_iff.mpr hempty)

/-- The name of a file has safe characters and those of the extension. -/
theorem mem_derive {request : Json} {c : Char} (h : c ∈ (derive request).toList) :
    isSafeChar c = true ∨ c ∈ extension.toList := by
  unfold derive withExtension at h
  split at h
  · exact Or.inl (isSafeChar_of_mem_sanitize h)
  · rw [String.toList_append, List.mem_append] at h
    exact h.imp_left isSafeChar_of_mem_sanitize

/-- A name that has the extension gets no other. -/
theorem withExtension_withExtension (s : String) :
    withExtension (withExtension s) = withExtension s := by
  by_cases hs : (extension : Text).toList.isSuffixOf (Text.lower s).toList = true
  · have hkept : withExtension s = s := if_pos hs
    rw [hkept, hkept]
  · have hadded : withExtension s = s ++ extension := if_neg hs
    -- whatever stands in front of it, the extension is in lower case
    have hlower : ∀ b, Text.lowerFrom b (extension : Text).toList = (extension : Text).toList := by
      decide
    have hlist : (s ++ extension : Text).toList = (s : Text).toList ++ (extension : Text).toList :=
      rfl
    obtain ⟨b, h⟩ := Text.exists_suffix_lowerFrom false (s : Text).toList (extension : Text).toList
    rw [hlower b] at h
    rw [hadded]
    refine if_pos (List.isSuffixOf_iff_suffix.mpr ?_)
    rwa [Text.lower, Text.ofString_append]

theorem withExtension_derive (request : Json) : withExtension (derive request) = derive request :=
  withExtension_withExtension _

end Filename

namespace Store

theorem isPlainName_iff {name : String} :
    isPlainName name = true ↔
      name ≠ "" ∧ '/' ∉ name.toList ∧ '\\' ∉ name.toList ∧ name ≠ "." ∧ name ≠ ".." := by
  simp [isPlainName, and_assoc]

/-- The extension leaves a name plain. -/
theorem isPlainName_withExtension {name : String} (h : isPlainName name = true) :
    isPlainName (Filename.withExtension name) = true := by
  obtain ⟨hempty, hslash, hback, hdot, hdots⟩ := isPlainName_iff.mp h
  unfold Filename.withExtension
  split
  · exact h
  · have hlist : (name ++ Filename.extension).toList = name.toList ++ Filename.extension.toList :=
      String.toList_append
    have hlong : 5 ≤ (name ++ Filename.extension).toList.length := by
      rw [hlist, List.length_append]
      exact Nat.le_add_left 5 _
    -- names that are not plain, unless for a character, are shorter than the extension
    have hshort : ∀ s : String, s.toList.length < 5 → name ++ Filename.extension ≠ s := by
      rintro s hs rfl
      exact absurd hlong (Nat.not_le.mpr hs)
    rw [isPlainName_iff, hlist, List.mem_append, List.mem_append, not_or, not_or]
    exact ⟨hshort _ (by decide), ⟨hslash, by decide⟩, ⟨hback, by decide⟩, hshort _ (by decide),
      hshort _ (by decide)⟩

/-- The name of a file that is derived from a request is plain. -/
theorem isPlainName_derive (request : Json) : isPlainName (Filename.derive request) = true := by
  refine isPlainName_withExtension (isPlainName_iff.mpr ⟨Filename.sanitize_ne_empty _, ?_⟩)
  -- what makes a name not plain is unsafe
  have habsent : ∀ c : Char, Filename.isSafeChar c = false →
      c ∉ (Filename.sanitize ((Filename.workbookName? request).getD Filename.fallback)).toList := by
    intro c hc hmem
    rw [Filename.isSafeChar_of_mem_sanitize hmem] at hc
    cases hc
  have hpoint := habsent '.' (by decide)
  refine ⟨habsent '/' (by decide), habsent '\\' (by decide), fun heq => ?_, fun heq => ?_⟩
  · rw [heq] at hpoint
    exact hpoint (by decide)
  · rw [heq] at hpoint
    exact hpoint (by decide)

/-- A plain name is a single part of a path. -/
theorem ofString_of_isPlainName {name : String} (h : isPlainName name = true) :
    Path.ofString name = ⟨.here, [name]⟩ := by
  obtain ⟨hempty, hslash, -, hdot, -⟩ := isPlainName_iff.mp h
  have hanchor : Path.anchorOf name.toList = .here := by
    -- every other anchor begins with a slash
    cases hlist : name.toList with
    | nil => rfl
    | cons c rest =>
      rw [hlist, List.mem_cons, not_or] at hslash
      unfold Path.anchorOf
      split
      · next heq => exact absurd (List.cons.inj heq).1.symm hslash.1
      · next heq => exact absurd (List.cons.inj heq).1.symm hslash.1
      · next heq => exact absurd (List.cons.inj heq).1.symm hslash.1
      · rfl
  have hpieces : Text.splitSlash name.toList = [name.toList] := by
    refine Text.splitWhere_eq_singleton fun c hc => beq_eq_false_iff_ne.mpr ?_
    rintro rfl
    exact hslash hc
  have hpart : Path.isPart name.toList = true := by
    have hne : name.toList ≠ ['.'] := fun hlist => hdot (String.toList_inj.mp hlist)
    simp [Path.isPart, hempty, hne]
  rw [Path.ofString, hanchor, hpieces, List.filter_cons_of_pos hpart]
  simp

theorem child_of_isPlainName {name : String} (h : isPlainName name = true) (directory : Path) :
    directory.child name = ⟨directory.anchor, directory.parts ++ [name]⟩ := by
  rw [Path.child, Path.join, ofString_of_isPlainName h, if_pos rfl]

/-- Such a name adds nothing to a directory that no path may hold. -/
theorem hasNul_child_derive (directory : Path) (request : Json) :
    hasNul (directory.child (Filename.derive request)) = hasNul directory := by
  have hname : (Filename.derive request).toList.contains '\x00' = false := by
    rw [List.contains_eq_mem, decide_eq_false_iff_not]
    intro hmem
    rcases Filename.mem_derive hmem with hsafe | hextension
    · revert hsafe
      decide
    · revert hextension
      decide
  rw [child_of_isPlainName (isPlainName_derive request), hasNul, List.any_append]
  dsimp only [List.any_cons, List.any_nil]
  rw [hname, Bool.or_self, Bool.or_false]
  rfl

end Store

end Gridwork
