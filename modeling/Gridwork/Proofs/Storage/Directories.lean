import Gridwork.Proofs.Storage.Tree
import Gridwork.Storage.Store

/-!
# What making directories and writing files changes

The parts of a path lead from place to place (`FileSystem.lead`), and the places that they come by
are on the way to it (`FileSystem.OnTheWay`). Making a directory with the missing ones on its way
adds just these (`withDirectories_makeDirectories`), and if it fails it adds no others
(`onlyDirectories_makeDirectories`). Writing a file changes what is at its place and nothing else
(`writeFile_eq_ok`).

All of this is about paths whose parts lead somewhere (`Path.Tidy`), as those of paths read from
texts do.
-/

namespace Gridwork

/-! ### Paths -/

namespace Path

/-- A path without parts that lead nowhere. -/
def Tidy (p : Path) : Prop := ∀ part ∈ p.parts, part ≠ "" ∧ part ≠ "."

theorem tidy_ofString (s : String) : (ofString s).Tidy := by
  intro part hpart
  obtain ⟨piece, hpiece, rfl⟩ := List.mem_map.mp hpart
  have hisPart := (List.mem_filter.mp hpiece).2
  rw [isPart, Bool.and_eq_true, bne_iff_ne, Bool.not_eq_true', List.isEmpty_eq_false_iff] at hisPart
  -- the parts of a text are what is left without those that lead nowhere
  constructor
  · intro hempty
    exact hisPart.1 (by simpa using congrArg String.toList hempty)
  · intro hdot
    exact hisPart.2 (by simpa using congrArg String.toList hdot)

theorem Tidy.parent {p : Path} (h : p.Tidy) : p.parent.Tidy :=
  fun part hpart => h part ((List.dropLast_prefix _).subset hpart)

/-- A path is its parent and its last part. -/
theorem parts_eq_of_getLast? {p : Path} {name : String} (h : p.parts.getLast? = some name) :
    p.parts = p.parent.parts ++ [name] := by
  obtain ⟨parts, hparts⟩ := List.getLast?_eq_some_iff.mp h
  rw [parent, hparts, List.dropLast_concat]

end Path

namespace FileSystem

variable {α : Type} {fs : FileSystem α} {p : Path}

/-! ### Ways -/

/-- Where a part of a path leads from a place. -/
def lead (place : List String) (part : String) : List String :=
  if part = "" ∨ part = "." then place
  else if part = ".." then place.dropLast
  else place ++ [part]

/-- Where a path leads, whatever is there. -/
def goal (fs : FileSystem α) (p : Path) : List String := p.parts.foldl lead (fs.origin p.anchor)

/-- The places that a path comes by, with its goal. -/
def OnTheWay (fs : FileSystem α) (p : Path) (place : List String) : Prop :=
  ∃ parts, parts <+: p.parts ∧ place = fs.goal ⟨p.anchor, parts⟩

/-- There are directories all the way. -/
def Reaches (fs : FileSystem α) (p : Path) : Prop :=
  ∀ place, fs.OnTheWay p place → fs.at? place = some .directory

theorem onTheWay_goal (fs : FileSystem α) (p : Path) : fs.OnTheWay p (fs.goal p) :=
  ⟨p.parts, List.prefix_rfl, rfl⟩

theorem OnTheWay.of_parent {place : List String} (h : fs.OnTheWay p.parent place) :
    fs.OnTheWay p place := by
  obtain ⟨parts, hparts, rfl⟩ := h
  exact ⟨parts, hparts.trans (List.dropLast_prefix _), rfl⟩

/-- The way to a path is the way to its parent, and the goal. -/
theorem OnTheWay.goal_or_parent {place : List String} (h : fs.OnTheWay p place) :
    place = fs.goal p ∨ fs.OnTheWay p.parent place := by
  obtain ⟨parts, hparts, rfl⟩ := h
  -- a beginning of the parts is all of them or a beginning of all but the last
  by_cases hall : parts = p.parts
  · rw [hall]
    exact Or.inl rfl
  · refine Or.inr ⟨parts, ?_, rfl⟩
    have hne : p.parts ≠ [] := by
      intro hnil
      rw [hnil] at hparts hall
      exact hall (List.prefix_nil.mp hparts)
    rw [← List.dropLast_concat_getLast hne] at hparts hall
    exact (List.prefix_concat_iff.mp hparts).resolve_left hall

theorem goal_of_cwd_eq {old new : FileSystem α} (h : new.cwd = old.cwd) (p : Path) :
    new.goal p = old.goal p := by
  unfold goal origin
  rw [h]

theorem onTheWay_of_cwd_eq {old new : FileSystem α} (h : new.cwd = old.cwd) {p : Path}
    {place : List String} : new.OnTheWay p place ↔ old.OnTheWay p place := by
  unfold OnTheWay
  simp only [goal_of_cwd_eq h]

/-! ### Walking -/

/-- A part of a path can be followed from a place: it leads nowhere or upwards, or it is a name that
a directory can have, and there is something under it. -/
def CanFollow (root : Node α) (place : List String) (part : String) : Prop :=
  part = "" ∨ part = "." ∨ part = ".." ∨
    octets part ≤ maxName ∧ root.at? (place ++ [part]) ≠ none

/-- **One step of a walk**: it starts in a directory, and goes where the part leads. -/
theorem walk_cons_eq_ok_iff {root : Node α} {place : List String} {part : String}
    {rest found : List String} :
    walk root place (part :: rest) = .ok found ↔
      root.at? place = some .directory ∧ CanFollow root place part ∧
        walk root (lead place part) rest = .ok found := by
  rw [walk]
  cases hplace : root.get? place with
  | none =>
    have hnone : root.at? place = none := by rw [Node.at?, hplace, Option.map_none]
    simp [hnone]
  | some node =>
    cases node with
    | file content =>
      have hfile : root.at? place = some (.file content) := by
        rw [Node.at?, hplace, Option.map_some, Node.occupant]
      simp [hfile]
    | directory entries =>
      have hdirectory : root.at? place = some .directory :=
        Node.at?_eq_directory_iff.mpr ⟨entries, hplace⟩
      have hbelow : root.at? (place ++ [part]) = (entries.lookup part).map Node.occupant := by
        rw [Node.at?, Node.get?_concat hplace]
      dsimp only
      rw [hdirectory, eq_self, true_and, CanFollow, hbelow]
      -- the kinds of parts, in the order in which the walk tells them apart
      by_cases hidle : part = "" ∨ part = "."
      · rw [if_pos hidle, lead, if_pos hidle]
        have hfollow : part = "" ∨ part = "." ∨ part = ".." ∨
            octets part ≤ maxName ∧ (entries.lookup part).map Node.occupant ≠ none :=
          hidle.elim Or.inl fun h => Or.inr (Or.inl h)
        rw [and_iff_right hfollow]
      · obtain ⟨hempty, hdot⟩ := not_or.mp hidle
        rw [if_neg hidle, lead, if_neg hidle]
        by_cases hup : part = ".."
        · rw [if_pos hup, if_pos hup, and_iff_right (Or.inr (Or.inr (Or.inl hup)))]
        · rw [if_neg hup, if_neg hup]
          by_cases hlong : maxName < octets part
          · rw [if_pos hlong]
            simp [hempty, hdot, hup, Nat.not_le.mpr hlong]
          · rw [if_neg hlong]
            cases entries.lookup part <;> simp [hempty, hdot, hup, Nat.not_lt.mp hlong]

/-- Who walks to the end of a path comes by directories only. -/
theorem walk_eq_ok {root : Node α} {place found : List String} {parts : List String}
    (h : walk root place parts = .ok found) :
    found = parts.foldl lead place ∧
      ∀ before, before <+: parts → before ≠ parts →
        root.at? (before.foldl lead place) = some .directory := by
  -- along the parts, from the place that the first of them leads to
  induction parts generalizing place with
  | nil =>
    obtain rfl := Except.ok.inj h
    exact ⟨rfl, fun before hbefore hne => absurd (List.prefix_nil.mp hbefore) hne⟩
  | cons part rest ih =>
    obtain ⟨hplace, -, h⟩ := walk_cons_eq_ok_iff.mp h
    obtain ⟨hfound, hway⟩ := ih h
    refine ⟨hfound, fun before hbefore hne => ?_⟩
    cases before with
    | nil => exact hplace
    | cons step before =>
      obtain ⟨rfl, hrest⟩ := List.cons_prefix_cons.mp hbefore
      exact hway before hrest fun hall => hne (by rw [hall])

/-- Who walks to a directory comes by directories all the way. -/
theorem reaches_of_walk {place : List String}
    (h : walk fs.root (fs.origin p.anchor) p.parts = .ok place)
    (hplace : fs.at? place = some .directory) : fs.Reaches p := by
  obtain ⟨rfl, hway⟩ := walk_eq_ok h
  rintro _ ⟨parts, hparts, rfl⟩
  -- only the end itself is not known from the walk
  by_cases hall : parts = p.parts
  · rw [hall]
    exact hplace
  · exact hway parts hparts hall

theorem reaches_of_isDirectory (h : fs.isDirectory p = true) : fs.Reaches p := by
  unfold isDirectory at h
  split at h
  · next place hlocate =>
    unfold locate at hlocate
    split at hlocate
    · cases hlocate
    · refine reaches_of_walk hlocate (Node.at?_eq_directory_iff.mpr ?_)
      cases hnode : fs.root.get? place with
      | none =>
        rw [hnode] at h
        cases h
      | some node =>
        rw [hnode] at h
        cases node with
        | file content => cases h
        | directory entries => exact ⟨entries, rfl⟩
  · cases h

theorem slot_eq (fs : FileSystem α) (p : Path) :
    fs.slot p =
      if maxPath ≤ octets p.text then .error .nameTooLong
      else
        match walk fs.root (fs.origin p.anchor) p.parent.parts, p.parts.getLast? with
        | .error e, _ => .error e
        | .ok place, none => .ok (place, none)
        | .ok place, some name =>
          match fs.root.get? place with
          | some (.directory _) =>
            if name = ".." then .ok (place, none)
            else if maxName < octets name then .error .nameTooLong
            else .ok (place, some name)
          | some (.file _) => .error .notDirectory
          | none => .error .notFound := by
  unfold slot Path.parent
  by_cases hlong : maxPath ≤ octets p.text
  · simp only [if_pos hlong]
    cases p.parts.getLast? <;> rfl
  · simp only [if_neg hlong]
    cases p.parts.getLast? <;> cases walk fs.root (fs.origin p.anchor) p.parts.dropLast <;> rfl

/-- The slot of a path: the directory that all parts but the last lead to, and the last part, which
is a name that the directory can have. -/
structure HasSlot (fs : FileSystem α) (p : Path) (place : List String) (name : String) : Prop where
  short : octets p.text < maxPath
  walk : walk fs.root (fs.origin p.anchor) p.parent.parts = .ok place
  last : p.parts.getLast? = some name
  directory : fs.at? place = some .directory
  not_up : name ≠ ".."
  fits : octets name ≤ maxName

theorem hasSlot_of_slot {place : List String} {name : String}
    (h : fs.slot p = .ok (place, some name)) : fs.HasSlot p place name := by
  rw [slot_eq] at h
  split at h
  · cases h
  next hshort =>
  split at h
  · cases h
  · cases h
  · next found last hwalk hlast =>
    split at h
    · next entries hentries =>
      split at h
      · cases h
      · next hup =>
        split at h
        · cases h
        next hfits =>
        obtain ⟨rfl, hname⟩ := Prod.mk.inj (Except.ok.inj h)
        obtain rfl := Option.some.inj hname
        exact ⟨Nat.not_le.mp hshort, hwalk, hlast, Node.at?_eq_directory_iff.mpr ⟨_, hentries⟩,
          hup, Nat.not_lt.mp hfits⟩
    · cases h
    · cases h

/-- Where the last part of a path can be made, there are directories up to it. -/
theorem slot_eq_ok (hp : p.Tidy) {place : List String} {name : String}
    (h : fs.slot p = .ok (place, some name)) :
    fs.Reaches p.parent ∧ fs.at? place = some .directory ∧ fs.goal p = place ++ [name] := by
  have hslot := hasSlot_of_slot h
  refine ⟨reaches_of_walk hslot.walk hslot.directory, hslot.directory, ?_⟩
  obtain ⟨hfound, -⟩ := walk_eq_ok hslot.walk
  -- the last part is neither idle nor a step up, so it leads to its own place
  have htidy := hp name (List.mem_of_getLast? hslot.last)
  rw [goal, Path.parts_eq_of_getLast? hslot.last, List.foldl_append, ← hfound]
  change lead place name = _
  rw [lead, if_neg (not_or.mpr htidy), if_neg hslot.not_up]

/-! ### Making directories -/

theorem makeDirectory_eq (fs : FileSystem α) (p : Path) :
    fs.makeDirectory p =
      match fs.slot p with
      | .error e => .error e
      | .ok (_, none) => .error .exists
      | .ok (place, some name) =>
        if (fs.root.get? (place ++ [name])).isSome then .error .exists
        else .ok { fs with root := Node.putAt name (.directory []) place fs.root } := by
  unfold makeDirectory
  cases fs.slot p with
  | error e => rfl
  | ok found =>
    obtain ⟨place, name⟩ := found
    cases name with
    | none => rfl
    | some name =>
      change (if _ then _ else _) = _
      by_cases h : (fs.root.get? (place ++ [name])).isSome
      · simp only [if_pos h]
        rfl
      · simp only [if_neg h]
        rfl

/-- A single directory is made where there was nothing. -/
theorem makeDirectory_eq_ok (hp : p.Tidy) {new : FileSystem α} (h : fs.makeDirectory p = .ok new) :
    fs.Reaches p.parent ∧ fs.at? (fs.goal p) = none ∧ new.cwd = fs.cwd ∧
      ∀ place, new.at? place = if place = fs.goal p then some .directory else fs.at? place := by
  rw [makeDirectory_eq] at h
  split at h
  · cases h
  · cases h
  · next place name hslot =>
    obtain ⟨hreaches, hplace, hgoal⟩ := slot_eq_ok hp hslot
    split at h
    · cases h
    · next hfree =>
      obtain rfl := Except.ok.inj h
      -- the place is free, so that nothing below it can be lost
      have hnone : fs.at? (fs.goal p) = none := by
        rw [hgoal, at?, Node.at?, Option.not_isSome_iff_eq_none.mp hfree]
        rfl
      refine ⟨hreaches, hnone, rfl, fun there => ?_⟩
      have hold : fs.root.at? (place ++ [name]) ≠ some .directory := fun hdirectory => by
        rw [← hgoal] at hdirectory
        cases hnone.symm.trans hdirectory
      rw [hgoal]
      exact Node.at?_putAt hplace hold (fun _ _ => rfl) there

/-- The missing directories on the way to a path have been added, and nothing else. -/
structure WithDirectories (old new : FileSystem α) (p : Path) : Prop where
  cwd : new.cwd = old.cwd
  made : ∀ place, old.OnTheWay p place → old.at? place = none → new.at? place = some .directory
  kept : ∀ place, (old.OnTheWay p place → old.at? place ≠ none) → new.at? place = old.at? place

theorem Reaches.withDirectories (h : fs.Reaches p) : WithDirectories fs fs p where
  cwd := rfl
  made place hway hnone := by
    rw [h place hway] at hnone
    cases hnone
  kept _ _ := rfl

theorem withDirectories_makeDirectory (hp : p.Tidy) {new : FileSystem α}
    (h : fs.makeDirectory p = .ok new) : WithDirectories fs new p := by
  obtain ⟨hreaches, hnone, hcwd, hat⟩ := makeDirectory_eq_ok hp h
  refine ⟨hcwd, fun place hway hplace => ?_, fun place hplace => ?_⟩
  · -- only the last directory was missing
    rcases hway.goal_or_parent with hgoal | hparent
    · rw [hat, if_pos hgoal]
    · rw [hreaches place hparent] at hplace
      cases hplace
  · rw [hat, if_neg]
    rintro rfl
    exact hplace (fs.onTheWay_goal p) hnone

/-- First the missing directories on the way to one path, then those on a way that goes on. -/
theorem WithDirectories.trans {old mid new : FileSystem α} {q : Path}
    (hq : WithDirectories old mid q) (hp : WithDirectories mid new p)
    (hway : ∀ place, old.OnTheWay q place → old.OnTheWay p place) : WithDirectories old new p := by
  have hmid : ∀ place, mid.OnTheWay p place ↔ old.OnTheWay p place :=
    fun place => onTheWay_of_cwd_eq hq.cwd
  refine ⟨hp.cwd.trans hq.cwd, fun place hplace hnone => ?_, fun place hplace => ?_⟩
  -- what was missing has been made in the first go or is still missing before the second
  · by_cases hon : old.OnTheWay q place
    · have hmade := hq.made place hon hnone
      rw [hp.kept place fun _ => by rw [hmade]; simp, hmade]
    · have hkept := hq.kept place fun h => absurd h hon
      exact hp.made place ((hmid place).mpr hplace) (hkept.trans hnone)
  · have hkept := hq.kept place fun h => hplace (hway place h)
    rw [hp.kept place fun h => by rw [hkept]; exact hplace ((hmid place).mp h), hkept]

theorem withDirectories_settle {e : Errno} {new : FileSystem α}
    (h : fs.settle p e = (new, .ok ())) : WithDirectories fs new p := by
  unfold settle at h
  split at h
  · next hdirectory =>
    obtain rfl := (Prod.mk.inj h).1
    exact (reaches_of_isDirectory hdirectory.2).withDirectories
  · cases (Prod.mk.inj h).2

/-- **What making directories adds.** -/
theorem withDirectories_makeDirectoriesWithin {depth : Nat} (hp : p.Tidy) {new : FileSystem α}
    (h : fs.makeDirectoriesWithin depth p = (new, .ok ())) : WithDirectories fs new p := by
  -- on the number of directories that may be missing, each the parent of the one before
  induction depth generalizing p new with
  | zero =>
    unfold makeDirectoriesWithin at h
    split at h
    · next made hmade =>
      obtain rfl := (Prod.mk.inj h).1
      exact withDirectories_makeDirectory hp hmade
    · cases (Prod.mk.inj h).2
    · exact withDirectories_settle h
  | succ depth ih =>
    unfold makeDirectoriesWithin at h
    split at h
    · next made hmade =>
      obtain rfl := (Prod.mk.inj h).1
      exact withDirectories_makeDirectory hp hmade
    · dsimp only at h
      split at h
      · cases (Prod.mk.inj h).2
      · next mid hparent =>
        -- the parent was missing: once it is there, the directory itself is tried again
        have habove := ih hp.parent hparent
        have hway : ∀ place, fs.OnTheWay p.parent place → fs.OnTheWay p place :=
          fun place => OnTheWay.of_parent
        split at h
        · next made hmade =>
          obtain rfl := (Prod.mk.inj h).1
          exact habove.trans (withDirectories_makeDirectory hp hmade) hway
        · exact habove.trans (withDirectories_settle h) hway
    · exact withDirectories_settle h

theorem withDirectories_makeDirectories (hp : p.Tidy) {new : FileSystem α}
    (h : fs.makeDirectories p = (new, .ok ())) : WithDirectories fs new p :=
  withDirectories_makeDirectoriesWithin hp h

/-! ### Files -/

/-- No file has been touched, although there may be more directories. -/
structure SameFiles (old new : FileSystem α) : Prop where
  cwd : new.cwd = old.cwd
  file? : ∀ place, new.file? place = old.file? place

theorem file?_congr {old new : FileSystem α} {place : List String}
    (h : new.at? place = old.at? place) : new.file? place = old.file? place := by
  rw [file?, h, file?]

/-- Nothing has changed but that directories were made, on the way to a path and where nothing
was. -/
structure OnlyDirectories (old new : FileSystem α) (p : Path) : Prop where
  cwd : new.cwd = old.cwd
  at? : ∀ place, new.at? place = old.at? place ∨
    old.OnTheWay p place ∧ old.at? place = none ∧ new.at? place = some .directory

theorem OnlyDirectories.refl (fs : FileSystem α) (p : Path) : OnlyDirectories fs fs p :=
  ⟨rfl, fun _ => Or.inl rfl⟩

theorem OnlyDirectories.trans {old mid new : FileSystem α} {q : Path}
    (hq : OnlyDirectories old mid q) (hp : OnlyDirectories mid new p)
    (hway : ∀ place, old.OnTheWay q place → old.OnTheWay p place) : OnlyDirectories old new p := by
  refine ⟨hp.cwd.trans hq.cwd, fun place => ?_⟩
  rcases hp.at? place with hsame | ⟨hon, hnone, hmade⟩
  · rw [hsame]
    exact (hq.at? place).imp_right fun ⟨hon, h⟩ => ⟨hway place hon, h⟩
  · -- what was missing in between was missing at first
    rw [onTheWay_of_cwd_eq hq.cwd] at hon
    rcases hq.at? place with hsame | ⟨-, -, hmid⟩
    · exact Or.inr ⟨hon, hsame.symm.trans hnone, hmade⟩
    · rw [hmid] at hnone
      cases hnone

theorem WithDirectories.onlyDirectories {old new : FileSystem α} (h : WithDirectories old new p) :
    OnlyDirectories old new p := by
  refine ⟨h.cwd, fun place => ?_⟩
  by_cases hmissing : old.OnTheWay p place ∧ old.at? place = none
  · exact Or.inr ⟨hmissing.1, hmissing.2, h.made place hmissing.1 hmissing.2⟩
  · exact Or.inl (h.kept place fun hway hnone => hmissing ⟨hway, hnone⟩)

theorem OnlyDirectories.sameFiles {old new : FileSystem α} (h : OnlyDirectories old new p) :
    SameFiles old new := by
  refine ⟨h.cwd, fun place => ?_⟩
  -- where a directory has been made there was no file
  rcases h.at? place with hsame | ⟨-, hnone, hmade⟩
  · exact file?_congr hsame
  · rw [file?, hmade, file?, hnone]

theorem onlyDirectories_settle (fs : FileSystem α) (p : Path) (e : Errno) :
    OnlyDirectories fs (fs.settle p e).1 p := by
  unfold settle
  split <;> exact .refl fs p

/-- **What making directories can add**, however it ends: the directories that were made before a
failure stay. -/
theorem onlyDirectories_makeDirectoriesWithin (hp : p.Tidy) (depth : Nat) :
    OnlyDirectories fs (fs.makeDirectoriesWithin depth p).1 p := by
  induction depth generalizing p with
  | zero =>
    unfold makeDirectoriesWithin
    split
    · next hmade => exact (withDirectories_makeDirectory hp hmade).onlyDirectories
    · exact .refl fs p
    · exact onlyDirectories_settle fs p _
  | succ depth ih =>
    unfold makeDirectoriesWithin
    split
    · next hmade => exact (withDirectories_makeDirectory hp hmade).onlyDirectories
    · have habove := ih hp.parent
      have hway : ∀ place, fs.OnTheWay p.parent place → fs.OnTheWay p place :=
        fun place => OnTheWay.of_parent
      dsimp only
      split
      · next hparent =>
        -- the parent cannot be made, so that is all
        rw [hparent] at habove
        exact habove.trans (.refl _ p) hway
      · next hparent =>
        rw [hparent] at habove
        split
        · next hmade =>
          exact habove.trans (withDirectories_makeDirectory hp hmade).onlyDirectories hway
        · exact habove.trans (onlyDirectories_settle _ p _) hway
    · exact onlyDirectories_settle fs p _

theorem onlyDirectories_makeDirectories (hp : p.Tidy) :
    OnlyDirectories fs (fs.makeDirectories p).1 p :=
  onlyDirectories_makeDirectoriesWithin hp _

/-- **What writing a file changes**: what is at its place, where there is no directory. -/
theorem writeFile_eq_ok (hp : p.Tidy) {content : α} {new : FileSystem α}
    (h : fs.writeFile p content = .ok new) :
    new.cwd = fs.cwd ∧ fs.at? (fs.goal p) ≠ some .directory ∧ ∀ place,
      new.at? place = if place = fs.goal p then some (.file content) else fs.at? place := by
  unfold writeFile at h
  split at h
  · cases h
  · cases h
  · next place name hslot =>
    obtain ⟨-, hplace, hgoal⟩ := slot_eq_ok hp hslot
    split at h
    · cases h
    · next hfile =>
      obtain rfl := Except.ok.inj h
      -- a directory is not written over
      have hold : fs.at? (fs.goal p) ≠ some .directory := by
        intro hdirectory
        rw [hgoal] at hdirectory
        obtain ⟨entries, hentries⟩ := Node.at?_eq_directory_iff.mp hdirectory
        exact hfile entries hentries
      refine ⟨rfl, hold, fun there => ?_⟩
      rw [hgoal] at hold ⊢
      exact Node.at?_putAt hplace hold (fun _ _ => rfl) there

end FileSystem

end Gridwork
