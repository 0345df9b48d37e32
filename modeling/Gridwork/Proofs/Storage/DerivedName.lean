import Gridwork.Disposition
import Gridwork.Proofs.Storage.Store
import Gridwork.Proofs.Text.Ascii

/-!
# Where the name of a file goes

The name that is derived from a request goes to the store and into a header, and each of them would
change or refuse a name that it takes for unsafe. It is made of a stem of portable characters and
the extension, and on such names all of them do nothing: cleaning the stem
(`Filename.sanitize_of_stem`), adding the extension, refusing what is not plain, writing for old
clients and percent-encoding (`Filename.safe_derive`).
-/

namespace Gridwork

namespace Filename

/-! ### Portable characters -/

/-- A character of `[A-Za-z0-9_-]`. -/
def Portable (c : Char) : Prop :=
  ('A' ≤ c ∧ c ≤ 'Z') ∨ ('a' ≤ c ∧ c ≤ 'z') ∨ ('0' ≤ c ∧ c ≤ '9') ∨ c = '_' ∨ c = '-'

/-- The safe characters are the portable ones. -/
theorem isSafeChar_iff {c : Char} : isSafeChar c = true ↔ Portable c := by
  have hupper : c.isUpper = true ↔ 'A' ≤ c ∧ c ≤ 'Z' := decide_eq_true_iff
  have hlower : c.isLower = true ↔ 'a' ≤ c ∧ c ≤ 'z' :=
    Bool.and_eq_true_iff.trans (and_congr decide_eq_true_iff decide_eq_true_iff)
  have hdigit : c.isDigit = true ↔ '0' ≤ c ∧ c ≤ '9' :=
    Bool.and_eq_true_iff.trans (and_congr decide_eq_true_iff decide_eq_true_iff)
  have hclasses : isSafeChar c
      = (((c.isUpper || c.isLower) || c.isDigit) || c == '_' || c == '-') := rfl
  rw [hclasses, Portable]
  simp only [Bool.or_eq_true, beq_iff_eq, hupper, hlower, hdigit, or_assoc]

/-- Portable characters are of ASCII. -/
theorem Portable.ascii {c : Char} (h : Portable c) : c.toNat < 0x80 := by
  have hbelow : ∀ d : Char, d.toNat < 0x80 → c ≤ d → c.toNat < 0x80 :=
    fun d hd hle => Nat.lt_of_le_of_lt hle hd
  rcases h with h | h | h | rfl | rfl
  · exact hbelow 'Z' (by decide) h.2
  · exact hbelow 'z' (by decide) h.2
  · exact hbelow '9' (by decide) h.2
  · decide
  · decide

/-- In lower case they are portable still. -/
theorem isSafeChar_toLower {c : Char} (h : isSafeChar c = true) : isSafeChar c.toLower = true :=
  Text.of_forall_ascii (P := fun c => isSafeChar c = true → isSafeChar c.toLower = true)
    (by decide +kernel) (isSafeChar_iff.mp h).ascii h

/-! ### Stems -/

/-- What a name is without its extension. -/
structure Stem (stem : String) : Prop where
  pos : 1 ≤ stem.length
  le : stem.length ≤ 64
  portable : ∀ c ∈ stem.toList, Portable c

/-- A sanitized name is a stem. -/
theorem stem_sanitize (t : Text) : Stem (sanitize t) := by
  refine ⟨?_, ?_, fun c hc => isSafeChar_iff.mp (isSafeChar_of_mem_sanitize hc)⟩
  · rw [← String.length_toList, Nat.one_le_iff_ne_zero, ne_eq, List.length_eq_zero_iff]
    exact fun hnil => sanitize_ne_empty t (String.toList_inj.mp hnil)
  · unfold sanitize
    dsimp only
    split
    · decide
    · rw [String.length_ofList]
      exact List.length_take_le _ _

/-- **Sanitizing leaves a stem as it is.** -/
theorem sanitize_of_stem {stem : String} (h : Stem stem) : sanitize stem = stem := by
  have hkept : (stem : Text).toList.map safeChar = stem.toList := by
    rw [Text.toList_ofString, List.map_map]
    refine (List.map_congr_left fun c hc => ?_).trans (List.map_id _)
    exact if_pos (isSafeChar_iff.mpr (h.portable c hc))
  have hwhole : stem.toList.take maxLength = stem.toList := by
    refine List.take_of_length_le ?_
    rw [String.length_toList]
    exact h.le
  have hnonempty : ¬ stem.toList.isEmpty = true := by
    rw [List.isEmpty_iff, ← List.length_eq_zero_iff, String.length_toList]
    exact Nat.one_le_iff_ne_zero.mp h.pos
  unfold sanitize
  dsimp only
  rw [hkept, hwhole, if_neg hnonempty, String.ofList_toList]

/-- A stem has no extension, in any case, and so it gets one. -/
theorem withExtension_of_stem {stem : String} (h : Stem stem) :
    withExtension stem = stem ++ extension := by
  have hlower : (Text.lower stem).toList = stem.toList.map fun c => .char c.toLower :=
    Text.lowerFrom_of_ascii (fun c hc => (h.portable c hc).ascii) false
  refine if_neg fun hends => ?_
  -- the point of the extension would be a letter, a digit or a mark of the stem
  have hpoint : .char '.' ∈ (Text.lower stem).toList :=
    (List.isSuffixOf_iff_suffix.mp hends).subset (by decide)
  rw [hlower] at hpoint
  obtain ⟨c, hc, hlow⟩ := List.mem_map.mp hpoint
  have hsafe := isSafeChar_toLower (isSafeChar_iff.mpr (h.portable c hc))
  rw [CodePoint.char.inj hlow] at hsafe
  exact absurd hsafe (by decide)

/-! ### Headers -/

/-- The characters of a stem and of the extension stand for themselves. -/
theorem unreserved_of_mem {stem : String} (h : Stem stem) {c : Char}
    (hc : c ∈ (stem ++ extension).toList) : Text.Percent.Unreserved c := by
  rw [String.toList_append, List.mem_append] at hc
  rcases hc with hc | hc
  · refine ⟨(h.portable c hc).ascii, ?_⟩
    -- letters and digits, and two of the marks
    have hsafe := isSafeChar_iff.mpr (h.portable c hc)
    rw [isSafeChar, Bool.or_eq_true, Bool.or_eq_true, beq_iff_eq, beq_iff_eq] at hsafe
    rw [Bool.or_eq_true]
    rcases hsafe with (halphanum | rfl) | rfl
    · exact Or.inl halphanum
    · exact Or.inr (by decide)
    · exact Or.inr (by decide)
  · have hletters : extension.toList = ['.', 'x', 'l', 's', 'x'] := rfl
    rw [hletters] at hc
    simp only [List.mem_cons, List.not_mem_nil, or_false] at hc
    rcases hc with rfl | rfl | rfl | rfl | rfl <;> exact ⟨by decide, by decide⟩

/-- What stands for itself is written as it is for old clients too. -/
theorem asciiChar_of_unreserved {c : Char} (h : Text.Percent.Unreserved c) :
    Disposition.asciiChar c = c := by
  have hquote : c ≠ '"' := by
    rintro rfl
    exact absurd h.kind (by decide)
  rw [Disposition.asciiChar, if_neg hquote, if_pos h.ascii]

/-- A name of such characters stands in the header twice. -/
theorem attachment_eq {name : String} (h : ∀ c ∈ name.toList, Text.Percent.Unreserved c) :
    Disposition.attachment name
      = "attachment; filename=\"" ++ name ++ "\"; filename*=UTF-8''" ++ name := by
  have hplain : String.ofList (name.toList.map Disposition.asciiChar) = name := by
    rw [List.map_congr_left fun c hc => asciiChar_of_unreserved (h c hc), List.map_id',
      String.ofList_toList]
  have hencoded : String.ofList (Text.Percent.encode name.toList) = name := by
    rw [Text.Percent.encode_of_unreserved h, String.ofList_toList]
  unfold Disposition.attachment
  rw [hplain, hencoded]

end Filename

/-! ### The store -/

namespace Store

variable {α : Type} {files : FileSystem α} {directory path : Path} {name : String} {content : α}

/-- A plain name is not refused for its characters. -/
theorem save_ne_notPlainName (hname : isPlainName name = true) :
    (save files directory name content).2 ≠ .error (.storage ⟨path, .notPlainName⟩) := by
  intro h
  have hends := save_cases files directory name content
  rw [h] at hends
  generalize (save files directory name content).1 = new at hends
  cases hends with
  | notPlain hrefused =>
    rw [hname] at hrefused
    cases hrefused

/-- A name that has the extension is the last part of the path that is written. -/
theorem path_of_save (hname : isPlainName name = true)
    (hextended : Filename.withExtension name = name)
    (h : (save files directory name content).2 = .ok path ∨
      ∃ e, (save files directory name content).2 = .error (.storage ⟨path, .notWritten e⟩)) :
    path = ⟨directory.anchor, directory.parts ++ [name]⟩ := by
  have htarget : directory.child (Filename.withExtension name)
      = ⟨directory.anchor, directory.parts ++ [name]⟩ := by
    rw [hextended, child_of_isPlainName hname]
  have hends := save_cases files directory name content
  generalize (save files directory name content).1 = new at hends
  rcases h with h | ⟨e, h⟩
  · rw [h] at hends
    cases hends with
    | written _ hpath => exact hpath.trans htarget
  · rw [h] at hends
    cases hends with
    | notWritten _ hpath => exact hpath.trans htarget

/-- No file but the one of the name is touched. -/
theorem file?_of_save (hdirectory : directory.Tidy)
    (hextended : Filename.withExtension name = name) {place : List String}
    (hplace : place ≠ files.goal directory ++ [name]) :
    (save files directory name content).1.file? place = files.file? place := by
  rcases hsaved : save files directory name content with ⟨new, result⟩
  cases result with
  | error e => exact (sameFiles_save hdirectory hsaved).file? place
  | ok path =>
    obtain ⟨-, hstored⟩ := stored_save hdirectory hsaved
    rw [hextended] at hstored
    exact hstored.file?.2 place hplace

end Store

/-! ### The derived name -/

namespace Filename

/-- A name of a file that is safe wherever it goes. -/
structure SafeEverywhere (name : String) : Prop where
  /-- It is a stem with the extension, and sanitizing does not change the stem. -/
  stem : ∃ stem, Stem stem ∧ name = stem ++ ".xlsx" ∧ sanitize stem = stem
  /-- It gets no other extension. -/
  extended : withExtension name = name
  /-- The store does not refuse it. -/
  accepted : ∀ {α : Type} (files : FileSystem α) (directory path : Path) (content : α),
    (Store.save files directory name content).2 ≠ .error (.storage ⟨path, .notPlainName⟩)
  /-- The path that the store writes to is that of the directory with the name behind it. -/
  target : ∀ {α : Type} (files : FileSystem α) (directory path : Path) (content : α),
    (Store.save files directory name content).2 = .ok path ∨
        (∃ e, (Store.save files directory name content).2
          = .error (.storage ⟨path, .notWritten e⟩)) →
      path = ⟨directory.anchor, directory.parts ++ [name]⟩
  /-- And there is no other file that the store touches. -/
  inside : ∀ {α : Type} (files : FileSystem α) (text : String) (content : α) (place : List String),
    place ≠ files.goal (Path.ofString text) ++ [name] →
      (Store.save files (Path.ofString text) name content).1.file? place = files.file? place
  /-- It stands in the header as it is, for old clients and for new ones. -/
  header : Disposition.attachment name
    = "attachment; filename=\"" ++ name ++ "\"; filename*=UTF-8''" ++ name

/-- **The name that is derived from a request is safe everywhere**, whatever the request is. -/
theorem safe_derive (request : Json) : SafeEverywhere (derive request) := by
  have hstem := stem_sanitize ((workbookName? request).getD fallback)
  have hname : derive request = sanitize ((workbookName? request).getD fallback) ++ extension :=
    withExtension_of_stem hstem
  have hplain := Store.isPlainName_derive request
  have hextended := withExtension_derive request
  constructor
  case stem => exact ⟨_, hstem, hname, sanitize_of_stem hstem⟩
  case extended => exact hextended
  case accepted =>
    intro α files directory path content
    exact Store.save_ne_notPlainName hplain
  case target =>
    intro α files directory path content
    exact Store.path_of_save hplain hextended
  case inside =>
    intro α files text content place
    exact Store.file?_of_save (Path.tidy_ofString text) hextended
  case header =>
    refine attachment_eq fun c hc => ?_
    rw [hname] at hc
    exact unreserved_of_mem hstem hc

end Filename

end Gridwork
