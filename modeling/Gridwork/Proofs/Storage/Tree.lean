import Gridwork.Proofs.Lists
import Gridwork.Storage.FileTree
import Mathlib.Data.List.Basic

/-!
# File systems place by place

A tree is told by what it has at every place (`Node.at?`): a file with its content, a directory,
or nothing. Putting a file or an empty directory where there was no directory changes what is at
that place and nothing else (`Node.at?_putAt`), although all nodes on the way to it are new ones.
-/

namespace Gridwork

variable {α : Type}

/-- What there can be at a place. -/
inductive Occupant (α : Type) where
  | file (content : α)
  | directory
  deriving DecidableEq, Repr

namespace Node

/-- A node without what is below it. -/
def occupant : Node α → Occupant α
  | .file content => .file content
  | .directory _ => .directory

/-- What there is at a place below a node. -/
def at? (node : Node α) (place : List String) : Option (Occupant α) :=
  (node.get? place).map occupant

@[simp] theorem at?_nil (node : Node α) : node.at? [] = some node.occupant := by
  cases node <;> rfl

@[simp] theorem at?_file_cons (content : α) (name : String) (rest : List String) :
    (Node.file content).at? (name :: rest) = none := rfl

@[simp] theorem at?_directory_cons (entries : List (String × Node α)) (name : String)
    (rest : List String) :
    (Node.directory entries).at? (name :: rest)
      = (entries.lookup name).bind fun node => node.at? rest := by
  rw [at?, get?]
  cases entries.lookup name <;> rfl

theorem at?_eq_directory_iff {node : Node α} {place : List String} :
    node.at? place = some .directory ↔ ∃ entries, node.get? place = some (.directory entries) := by
  unfold at?
  cases node.get? place with
  | none => simp
  | some found => cases found <;> simp [occupant]

/-- One step further from a directory is what it has under the name. -/
theorem get?_concat {node : Node α} {place : List String} {entries : List (String × Node α)}
    (h : node.get? place = some (.directory entries)) (name : String) :
    node.get? (place ++ [name]) = entries.lookup name := by
  -- down the place, as `get?` goes
  induction place generalizing node with
  | nil =>
    obtain rfl : node = .directory entries := by cases node <;> exact Option.some.inj h
    rw [List.nil_append, get?]
    cases entries.lookup name <;> rfl
  | cons step place ih =>
    cases node with
    | file content => cases h
    | directory children =>
      rw [get?] at h
      rw [List.cons_append, get?]
      cases hstep : children.lookup step with
      | none =>
        rw [hstep] at h
        cases h
      | some child =>
        rw [hstep] at h
        exact ih h

/-- There is nothing below a place that has no directory. -/
theorem at?_below {node : Node α} {place : List String}
    (h : node.at? place ≠ some .directory) (name : String) (rest : List String) :
    node.at? (place ++ name :: rest) = none := by
  -- down the place, as far as there are directories
  induction place generalizing node with
  | nil =>
    cases node with
    | file content => rfl
    | directory entries => exact absurd (at?_nil _) h
  | cons step place ih =>
    cases node with
    | file content => rfl
    | directory entries =>
      rw [List.cons_append, at?_directory_cons]
      rw [at?_directory_cons] at h
      cases hstep : entries.lookup step with
      | none => rfl
      | some child =>
        rw [hstep] at h
        exact ih h

theorem lookup_putEntry (name : String) (new : Node α) (entries : List (String × Node α))
    (n : String) :
    (putEntry name new entries).lookup n = if n = name then some new else entries.lookup n := by
  induction entries with
  | nil => exact lookup_cons_eq n name new []
  | cons entry entries ih =>
    obtain ⟨m, old⟩ := entry
    rw [putEntry]
    by_cases hm : m = name
    · -- the old entry is replaced in its place
      subst hm
      rw [if_pos rfl, lookup_cons_eq, lookup_cons_eq]
      by_cases hn : n = m
      · rw [if_pos hn, if_pos hn]
      · rw [if_neg hn, if_neg hn, if_neg hn]
    · rw [if_neg hm, lookup_cons_eq, lookup_cons_eq, ih]
      -- the search comes by the other entry first, and stops there if it is the one that is wanted
      by_cases hn : n = m
      · rw [if_pos hn, if_pos hn, if_neg (hn ▸ hm)]
      · rw [if_neg hn, if_neg hn]

/-- **What changes when something is put into a directory**: its place, if neither the old nor the
new thing there has anything below it. -/
theorem at?_putAt {node new : Node α} {name : String} {steps : List String}
    (hdirectory : node.at? steps = some .directory)
    (hold : node.at? (steps ++ [name]) ≠ some .directory)
    (hnew : ∀ n rest, new.at? (n :: rest) = none) (place : List String) :
    (putAt name new steps node).at? place
      = if place = steps ++ [name] then some new.occupant else node.at? place := by
  -- down the steps to the directory, with the place that is looked at beside them
  induction steps generalizing node place with
  | nil =>
    cases node with
    | file content => cases hdirectory
    | directory entries =>
      cases place with
      | nil => rfl
      | cons n rest =>
        rw [putAt, at?_directory_cons, lookup_putEntry]
        by_cases hn : n = name
        · subst hn
          cases rest with
          | nil => simp
          | cons m rest =>
            -- further down there was nothing, and there is nothing now
            have hbelow := at?_below hold m rest
            rw [List.nil_append, List.singleton_append] at hbelow
            rw [if_pos rfl, Option.bind_some, hnew, if_neg (by simp), hbelow]
        · rw [if_neg hn, if_neg (by simp [hn]), at?_directory_cons]
  | cons step steps ih =>
    cases node with
    | file content => cases hdirectory
    | directory entries =>
      rw [at?_directory_cons] at hdirectory
      obtain ⟨child, hchild, hbelow⟩ := Option.bind_eq_some_iff.mp hdirectory
      rw [List.cons_append, at?_directory_cons, hchild, Option.bind_some] at hold
      rw [putAt, hchild]
      dsimp only
      cases place with
      | nil => rfl
      | cons n rest =>
        rw [at?_directory_cons, lookup_putEntry, at?_directory_cons]
        -- the node on the way is a new one, and all others are as they were
        by_cases hn : n = step
        · subst hn
          rw [if_pos rfl, Option.bind_some, ih hbelow hold, hchild, Option.bind_some,
            List.cons_append]
          simp only [List.cons.injEq, true_and]
        · rw [if_neg hn, if_neg (by simp [hn])]

end Node

namespace FileSystem

/-- What there is at a place. -/
def at? (fs : FileSystem α) (place : List String) : Option (Occupant α) := fs.root.at? place

/-- The content of the file at a place. -/
def file? (fs : FileSystem α) (place : List String) : Option α :=
  match fs.at? place with
  | some (.file content) => some content
  | _ => none

end FileSystem

end Gridwork
