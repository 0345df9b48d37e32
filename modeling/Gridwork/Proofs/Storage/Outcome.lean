import Gridwork.Proofs.Storage.Reading

/-!
# One file or none

However storing ends, a place is one of three things afterwards (`Store.PlaceAfter`): what it was, a
directory on the way to the store where nothing was, or the file that the returned path leads to. So
storing writes one file or none, and no name leads it out of the directory
(`Store.oneFileOrNone_save`).
-/

namespace Gridwork

namespace Store

variable {α : Type} {old new : FileSystem α} {directory : Path} {name : String} {content : α}
  {result : Except StoreFailure Path}

/-! ### Place by place -/

/-- What a place is after storing. -/
inductive PlaceAfter (old new : FileSystem α) (directory : Path) (content : α)
    (result : Except StoreFailure Path) (place : List String) : Prop
  | same (h : new.at? place = old.at? place)
  | made (hway : old.OnTheWay directory place) (hfree : old.at? place = none)
      (h : new.at? place = some .directory)
  | written {path : Path} (hresult : result = .ok path) (hplace : place = old.goal path)
      (hold : old.at? place ≠ some .directory) (h : new.at? place = some (.file content))

theorem placeAfter_of_onlyDirectories (h : FileSystem.OnlyDirectories old new directory)
    (place : List String) : PlaceAfter old new directory content result place := by
  rcases h.at? place with hsame | ⟨hway, hfree, hmade⟩
  · exact .same hsame
  · exact .made hway hfree hmade

/-- **What storing makes of a place.** -/
theorem placeAfter_save (hdirectory : directory.Tidy)
    (h : save old directory name content = (new, result)) (place : List String) :
    PlaceAfter old new directory content result place := by
  have hends := save_cases old directory name content
  rw [h] at hends
  dsimp only at hends
  cases hends with
  | notPlain | nulInDirectory | noDirectory | nulInName | notWritten =>
    exact placeAfter_of_onlyDirectories (onlyDirectories_save hdirectory h) place
  | written hplain hpath hmade hwritten =>
    rename_i made path
    have htidy : path.Tidy := by
      rw [hpath]
      exact tidy_child (isPlainName_withExtension hplain) hdirectory
    have hmakes : FileSystem.OnlyDirectories old made directory :=
      (FileSystem.withDirectories_makeDirectories hdirectory hmade).onlyDirectories
    obtain ⟨-, hfile, hat⟩ := FileSystem.writeFile_eq_ok htidy hwritten
    rw [FileSystem.goal_of_cwd_eq hmakes.cwd] at hfile hat
    by_cases hplace : place = old.goal path
    · refine .written rfl hplace ?_ (by rw [hat, if_pos hplace])
      -- a directory would have stayed one, and no file is written over a directory
      intro hold
      rcases hmakes.at? place with hsame | ⟨-, hfree, -⟩
      · rw [hplace] at hsame hold
        exact hfile (hsame.trans hold)
      · rw [hold] at hfree
        cases hfree
    · -- what stands elsewhere is what making the directories has left there
      have hkept : new.at? place = made.at? place := by rw [hat, if_neg hplace]
      rcases hmakes.at? place with hsame | ⟨hway, hfree, hthere⟩
      · exact .same (hkept.trans hsame)
      · exact .made hway hfree (hkept.trans hthere)

/-! What storing cannot do to a place. -/

namespace PlaceAfter

variable {place : List String} (h : PlaceAfter old new directory content result place)
include h

/-- Where the returned path does not lead, files are what they were. -/
theorem file?_eq (hplace : ∀ path, result = .ok path → place ≠ old.goal path) :
    new.file? place = old.file? place := by
  cases h with
  | same h => exact FileSystem.file?_congr h
  | made _ hfree h => rw [FileSystem.file?, h, FileSystem.file?, hfree]
  | written hresult htarget => exact absurd htarget (hplace _ hresult)

/-- A directory stays one. -/
theorem directory_kept (hold : old.at? place = some .directory) :
    new.at? place = some .directory := by
  cases h with
  | same h => exact h.trans hold
  | made _ _ h => exact h
  | written _ _ hfile => exact absurd hold hfile

/-- A file is not removed. -/
theorem file_kept (hold : (old.file? place).isSome) : (new.file? place).isSome := by
  cases h with
  | same h => rwa [FileSystem.file?_congr h]
  | made _ hfree =>
    -- here nothing was
    rw [FileSystem.file?, hfree] at hold
    cases hold
  | written _ _ _ h =>
    rw [FileSystem.file?, h]
    rfl

/-- What is new there and not the file is a directory on the way. -/
theorem of_free (hfree : old.at? place = none) (hthere : new.at? place ≠ none)
    (hplace : ∀ path, result = .ok path → place ≠ old.goal path) :
    new.at? place = some .directory ∧ old.OnTheWay directory place := by
  cases h with
  | same h => exact absurd (h.trans hfree) hthere
  | made hway _ h => exact ⟨h, hway⟩
  | written hresult htarget => exact absurd htarget (hplace _ hresult)

end PlaceAfter

/-! ### The path that is returned -/

theorem cwd_save (hdirectory : directory.Tidy)
    (h : save old directory name content = (new, result)) : new.cwd = old.cwd := by
  cases result with
  | error e => exact (onlyDirectories_save hdirectory h).cwd
  | ok path => exact (stored_save hdirectory h).2.cwd

/-- A returned path is that of a file in the directory, and the content is read under it. -/
theorem returned_save (hdirectory : directory.Plain) {path : Path}
    (h : save old directory name content = (new, .ok path)) :
    path = directory.child (Filename.withExtension name) ∧ path.parent = directory ∧
      old.goal path = old.goal directory ++ [Filename.withExtension name] ∧
      new.readFile path.text = .ok content := by
  have hends := save_cases old directory name content
  rw [h] at hends
  dsimp only at hends
  cases hends with
  | written hplain hpath hmade hwritten =>
    have hname := isPlainName_withExtension hplain
    have hread := FileSystem.readFile_of_writeFile (hpath ▸ plain_child hname hdirectory) hwritten
    have hparent : (directory.child (Filename.withExtension name)).parent = directory := by
      rw [child_of_isPlainName hname, Path.parent, List.dropLast_concat]
    refine ⟨hpath, hpath ▸ hparent, ?_, hread⟩
    rw [hpath]
    exact goal_child hname old directory

/-! ### Names that are refused -/

theorem isPlainName_eq_false
    (h : name = "" ∨ name = "." ∨ name = ".." ∨ '/' ∈ name.toList ∨ '\\' ∈ name.toList) :
    isPlainName name = false := by
  rw [← Bool.not_eq_true, isPlainName_iff]
  rintro ⟨hempty, hslash, hback, hdot, hdots⟩
  rcases h with h | h | h | h | h
  · exact hempty h
  · exact hdot h
  · exact hdots h
  · exact hslash h
  · exact hback h

theorem save_of_not_plain (h : isPlainName name = false) :
    save old directory name content
      = (old, .error (.storage ⟨directory.child name, .notPlainName⟩)) := by
  rw [save, h]
  rfl

/-! ### The whole outcome -/

/-- What storing has done, whatever it has come to. -/
structure OneFileOrNone (old : FileSystem α) (directory : Path) (name : String) (content : α)
    (new : FileSystem α) (result : Except StoreFailure Path) : Prop where
  /-- A returned path is that of the name with the extension in the directory, it leads nowhere
  else, and the content is read under it. -/
  returned : ∀ path, result = .ok path →
    path = directory.child (Filename.withExtension name) ∧ path.parent = directory ∧
      old.goal path = old.goal directory ++ [Filename.withExtension name] ∧
      new.readFile path.text = .ok content
  /-- All files but that of a returned path are what they were. -/
  others : ∀ place, (∀ path, result = .ok path → place ≠ old.goal path) →
    new.file? place = old.file? place
  /-- Nothing has been removed: where there was a file there is one, and directories are
  directories. -/
  kept : new.cwd = old.cwd ∧ ∀ place,
    (old.at? place = some .directory → new.at? place = some .directory) ∧
      ((old.file? place).isSome → (new.file? place).isSome)
  /-- What is new, but for the file of a returned path, are directories on the way to the
  directory. -/
  added : ∀ place, old.at? place = none → new.at? place ≠ none →
    (∀ path, result = .ok path → place ≠ old.goal path) →
    new.at? place = some .directory ∧ old.OnTheWay directory place
  /-- A failure has neither made nor changed a file. -/
  failed : ∀ e, result = .error e → ∀ place, new.file? place = old.file? place
  /-- A name that would not be a single part of a path is refused before anything is done. -/
  refused : name = "" ∨ name = "." ∨ name = ".." ∨ '/' ∈ name.toList ∨ '\\' ∈ name.toList →
    (∃ e, result = .error (.storage e) ∧ e.reason = .notPlainName) ∧ new = old

/-- **Storing writes one file or none.** -/
theorem oneFileOrNone_save (files : FileSystem α) (text name : String) (content : α) :
    OneFileOrNone files (Path.ofString text) name content
      (save files (Path.ofString text) name content).1
      (save files (Path.ofString text) name content).2 := by
  have hplain := Path.plain_ofString text
  generalize Path.ofString text = directory at hplain
  rcases hsaved : save files directory name content with ⟨new, result⟩
  have hafter := placeAfter_save hplain.tidy hsaved
  dsimp only
  constructor
  case returned =>
    rintro path rfl
    exact returned_save hplain hsaved
  case others => exact fun place => (hafter place).file?_eq
  case kept =>
    exact ⟨cwd_save hplain.tidy hsaved,
      fun place => ⟨(hafter place).directory_kept, (hafter place).file_kept⟩⟩
  case added => exact fun place => (hafter place).of_free
  case failed =>
    rintro e rfl place
    exact (onlyDirectories_save hplain.tidy hsaved).sameFiles.file? place
  case refused =>
    intro hname
    rw [save_of_not_plain (isPlainName_eq_false hname)] at hsaved
    obtain ⟨rfl, rfl⟩ := Prod.mk.inj hsaved
    exact ⟨⟨_, rfl, rfl⟩, rfl⟩

end Store

end Gridwork
