import Gridwork.Proofs.Storage.Directories
import Gridwork.Proofs.Storage.Filename
import Gridwork.Storage.Deposit

/-!
# What the store changes

Storing adds the file and the missing directories on the way to its directory, and changes nothing
else (`Store.stored_save`). When it fails there may be more directories on that way, but no file is
touched (`Store.onlyDirectories_save`, `Store.sameFiles_save`). All of this is read off
`Store.save_cases`, which has one case for every way in which storing ends.
-/

namespace Gridwork

namespace Store

/-! ### Storing -/

variable {α : Type} {old new : FileSystem α} {directory : Path} {name : String} {content : α}

/-- A file has been stored in a directory, the missing directories on the way to it have been added,
and nothing else has changed. -/
structure Stored (old new : FileSystem α) (directory : Path) (name : String) (content : α) :
    Prop where
  cwd : new.cwd = old.cwd
  written : new.at? (old.goal directory ++ [name]) = some (.file content)
  made : ∀ place, place ≠ old.goal directory ++ [name] → old.OnTheWay directory place →
    old.at? place = none → new.at? place = some .directory
  kept : ∀ place, place ≠ old.goal directory ++ [name] →
    (old.OnTheWay directory place → old.at? place ≠ none) → new.at? place = old.at? place

/-- The files of a tree in which one has been stored. -/
theorem Stored.file? (h : Stored old new directory name content) :
    new.file? (old.goal directory ++ [name]) = some content ∧
      ∀ place, place ≠ old.goal directory ++ [name] → new.file? place = old.file? place := by
  refine ⟨by rw [FileSystem.file?, h.written], fun place hplace => ?_⟩
  -- a directory that was made stands where no file was
  by_cases hmissing : old.OnTheWay directory place ∧ old.at? place = none
  · rw [FileSystem.file?, h.made place hplace hmissing.1 hmissing.2, FileSystem.file?, hmissing.2]
  · exact FileSystem.file?_congr
      (h.kept place hplace fun hway hnone => hmissing ⟨hway, hnone⟩)

/-- The place of a file in a directory. -/
theorem goal_child (h : isPlainName name = true) (fs : FileSystem α) (directory : Path) :
    fs.goal (directory.child name) = fs.goal directory ++ [name] := by
  obtain ⟨hempty, -, -, hdot, hdots⟩ := isPlainName_iff.mp h
  rw [child_of_isPlainName h, FileSystem.goal, List.foldl_append]
  change FileSystem.lead (fs.goal directory) name = _
  rw [FileSystem.lead, if_neg (not_or.mpr ⟨hempty, hdot⟩), if_neg hdots]

theorem tidy_child (h : isPlainName name = true) (hdirectory : directory.Tidy) :
    (directory.child name).Tidy := by
  obtain ⟨hempty, -, -, hdot, -⟩ := isPlainName_iff.mp h
  rw [child_of_isPlainName h]
  intro part hpart
  rcases List.mem_append.mp hpart with hpart | hpart
  · exact hdirectory part hpart
  · rw [List.mem_singleton.mp hpart]
    exact ⟨hempty, hdot⟩

/-- The ways in which storing ends. -/
inductive SaveEnds (old : FileSystem α) (directory : Path) (name : String) (content : α) :
    FileSystem α → Except StoreFailure Path → Prop
  | notPlain {path : Path} (hname : isPlainName name = false)
      (hpath : path = directory.child name) :
      SaveEnds old directory name content old (.error (.storage ⟨path, .notPlainName⟩))
  | nulInDirectory (hname : isPlainName name = true) (h : hasNul directory = true) :
      SaveEnds old directory name content old (.error .nulInPath)
  | noDirectory {made : FileSystem α} {e : OsError} (hname : isPlainName name = true)
      (h : old.makeDirectories directory = (made, .error e)) :
      SaveEnds old directory name content made (.error (.storage ⟨directory, .noDirectory e⟩))
  | nulInName {made : FileSystem α} (hname : isPlainName name = true)
      (hmade : old.makeDirectories directory = (made, .ok ()))
      (h : hasNul (directory.child (Filename.withExtension name)) = true) :
      SaveEnds old directory name content made (.error .nulInPath)
  | notWritten {made : FileSystem α} {path : Path} {e : OsError} (hname : isPlainName name = true)
      (hpath : path = directory.child (Filename.withExtension name))
      (hmade : old.makeDirectories directory = (made, .ok ()))
      (h : made.writeFile path content = .error e) :
      SaveEnds old directory name content made (.error (.storage ⟨path, .notWritten e⟩))
  | written {made new : FileSystem α} {path : Path} (hname : isPlainName name = true)
      (hpath : path = directory.child (Filename.withExtension name))
      (hmade : old.makeDirectories directory = (made, .ok ()))
      (h : made.writeFile path content = .ok new) :
      SaveEnds old directory name content new (.ok path)

theorem save_cases (old : FileSystem α) (directory : Path) (name : String) (content : α) :
    SaveEnds old directory name content (save old directory name content).1
      (save old directory name content).2 := by
  unfold save
  dsimp only
  -- the checks and steps in their order, each of which can be the last one
  cases hname : isPlainName name with
  | false => exact .notPlain hname rfl
  | true =>
    rw [Bool.not_true, if_neg Bool.false_ne_true]
    by_cases hdirectory : hasNul directory = true
    · rw [if_pos hdirectory]
      exact .nulInDirectory hname hdirectory
    · rw [if_neg hdirectory]
      split
      · next hmade => exact .noDirectory hname hmade
      · next hmade =>
        by_cases hpath : hasNul (directory.child (Filename.withExtension name)) = true
        · rw [if_pos hpath]
          exact .nulInName hname hmade hpath
        · rw [if_neg hpath]
          split
          · next hwritten => exact .written hname rfl hmade hwritten
          · next hfailed => exact .notWritten hname rfl hmade hfailed

/-- **What storing changes.** -/
theorem stored_save (hdirectory : directory.Tidy) {path : Path}
    (h : save old directory name content = (new, .ok path)) :
    path = directory.child (Filename.withExtension name) ∧
      Stored old new directory (Filename.withExtension name) content := by
  have hends := save_cases old directory name content
  rw [h] at hends
  dsimp only at hends
  cases hends with
  | written hplain hpath hmade hwritten =>
    have hname := isPlainName_withExtension hplain
    have hwith := FileSystem.withDirectories_makeDirectories hdirectory hmade
    rw [hpath] at hwritten
    obtain ⟨hcwd, -, hat⟩ := FileSystem.writeFile_eq_ok (tidy_child hname hdirectory) hwritten
    -- the working directory stays, so the file is written where it would have been at first
    rw [FileSystem.goal_of_cwd_eq hwith.cwd, goal_child hname] at hat
    refine ⟨hpath, hcwd.trans hwith.cwd, ?_, fun place hplace hway hnone => ?_,
      fun place hplace hway => ?_⟩
    · rw [hat, if_pos rfl]
    · rw [hat, if_neg hplace, hwith.made place hway hnone]
    · rw [hat, if_neg hplace, hwith.kept place hway]

/-- Storing that fails makes directories at most. -/
theorem onlyDirectories_save (hdirectory : directory.Tidy) {e : StoreFailure}
    (h : save old directory name content = (new, .error e)) :
    FileSystem.OnlyDirectories old new directory := by
  have hends := save_cases old directory name content
  rw [h] at hends
  dsimp only at hends
  -- nothing has been done yet, or the directories have been made
  have hmakes : FileSystem.OnlyDirectories old (old.makeDirectories directory).1 directory :=
    FileSystem.onlyDirectories_makeDirectories hdirectory
  cases hends with
  | notPlain | nulInDirectory => exact .refl old directory
  | noDirectory _ hmade | nulInName _ hmade | notWritten _ _ hmade =>
    rw [hmade] at hmakes
    exact hmakes

/-- Storing that fails touches no file. -/
theorem sameFiles_save (hdirectory : directory.Tidy) {e : StoreFailure}
    (h : save old directory name content = (new, .error e)) : FileSystem.SameFiles old new :=
  (onlyDirectories_save hdirectory h).sameFiles

/-- Storing under the name of a request finds fault with a character only in the directory. -/
theorem save_eq_nulInPath_iff (files : FileSystem α) (directory : Path) (request : Json)
    (content : α) :
    (save files directory (Filename.derive request) content).2 = .error .nulInPath ↔
      hasNul directory = true := by
  constructor
  · intro h
    have hends := save_cases files directory (Filename.derive request) content
    rw [h] at hends
    generalize (save files directory (Filename.derive request) content).1 = new at hends
    cases hends with
    | nulInDirectory _ hnul => exact hnul
    | nulInName _ _ hnul =>
      rwa [Filename.withExtension_derive, hasNul_child_derive] at hnul
  · intro hnul
    rw [save, isPlainName_derive, if_pos hnul]
    rfl

end Store

/-! ### Deposits -/

namespace Deposit

variable {files : FileSystem FileContent} {directory : Path} {name : String} {content : FileContent}

theorem save_eq (files : FileSystem FileContent) (directory : Path) (name : String)
    (content : FileContent) :
    Store.save files directory name content
      = ((make files directory name content).files,
          (make files directory name content).result) := by
  unfold make
  generalize Store.save files directory name content = saved
  obtain ⟨new, result⟩ := saved
  rfl

theorem stored_make (hdirectory : directory.Tidy) {path : Path}
    (h : (make files directory name content).result = .ok path) :
    path = directory.child (Filename.withExtension name) ∧
      Store.Stored files (make files directory name content).files directory
        (Filename.withExtension name) content :=
  Store.stored_save hdirectory (by rw [save_eq, h])

theorem make_eq_nulInPath_iff (files : FileSystem FileContent) (directory : Path) (request : Json)
    (content : FileContent) :
    (make files directory (Filename.derive request) content).result = .error .nulInPath ↔
      Store.hasNul directory = true := by
  rw [← Store.save_eq_nulInPath_iff files directory request content, save_eq]

theorem sameFiles_make (hdirectory : directory.Tidy) {e : StoreFailure}
    (h : (make files directory name content).result = .error e) :
    FileSystem.SameFiles files (make files directory name content).files :=
  Store.sameFiles_save hdirectory (by rw [save_eq, h])

end Deposit

end Gridwork
