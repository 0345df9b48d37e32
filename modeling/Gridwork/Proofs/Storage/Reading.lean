import Gridwork.Proofs.Storage.Store
import Mathlib.Data.List.Basic

/-!
# Reading a file back

The text of a path is what its anchor is written with and the parts with slashes between them.
Where no part is idle or holds a slash (`Path.Plain`), as in paths that are read from texts, the
text falls into these parts again (`Path.pieces_text`). So the text of a path leads where the path
does, and a file that has been written is found under it with its content
(`FileSystem.readFile_of_writeFile`).
-/

namespace Gridwork

/-! ### Cutting a text at slashes -/

namespace Text

variable {divides : Char → Bool}

/-- The first piece ends at the first character that divides. -/
theorem splitWhere_append_cons {piece rest : List Char} {c : Char}
    (hpiece : ∀ d ∈ piece, divides d = false) (hc : divides c = true) :
    splitWhere divides (piece ++ c :: rest) = piece :: splitWhere divides rest := by
  induction piece with
  | nil => rw [List.nil_append, splitWhere, if_pos hc]
  | cons d piece ih =>
    obtain ⟨hd, hpiece⟩ := List.forall_mem_cons.mp hpiece
    rw [List.cons_append, splitWhere, hd, ih hpiece]
    rfl

/-- No piece holds a character that divides. -/
theorem not_divides_of_mem_splitWhere {cs piece : List Char} (h : piece ∈ splitWhere divides cs) :
    ∀ c ∈ piece, divides c = false := by
  induction cs generalizing piece with
  | nil =>
    intro c hc
    rw [List.mem_singleton.mp h] at hc
    cases hc
  | cons d cs ih =>
    rw [splitWhere] at h
    by_cases hd : divides d = true
    · -- a dividing character ends an empty piece
      rw [if_pos hd] at h
      rcases List.mem_cons.mp h with rfl | h
      · intro c hc
        cases hc
      · exact ih h
    · rw [if_neg hd] at h
      -- any other one stands at the beginning of the piece that it comes before
      cases hrest : splitWhere divides cs with
      | nil => exact absurd hrest (splitWhere_ne_nil divides cs)
      | cons first others =>
        rw [hrest] at h ih
        rcases List.mem_cons.mp h with rfl | h
        · exact List.forall_mem_cons.mpr ⟨Bool.not_eq_true _ ▸ hd, ih List.mem_cons_self⟩
        · exact ih (List.mem_cons_of_mem _ h)

/-- Cutting at slashes undoes joining with slashes. -/
theorem splitSlash_intercalate {pieces : List (List Char)} (hne : pieces ≠ [])
    (h : ∀ piece ∈ pieces, '/' ∉ piece) : splitSlash (['/'].intercalate pieces) = pieces := by
  have hwhole : ∀ piece ∈ pieces, ∀ c ∈ piece, (c == '/') = false := by
    intro piece hpiece c hc
    refine beq_eq_false_iff_ne.mpr ?_
    rintro rfl
    exact h piece hpiece hc
  clear h
  unfold splitSlash
  induction pieces with
  | nil => exact absurd rfl hne
  | cons first rest ih =>
    obtain ⟨hfirst, hrest⟩ := List.forall_mem_cons.mp hwhole
    cases rest with
    | nil => rw [List.intercalate_singleton, splitWhere_eq_singleton hfirst]
    | cons second rest =>
      rw [List.intercalate_cons_cons, List.append_assoc, List.singleton_append,
        splitWhere_append_cons hfirst rfl, ih (List.cons_ne_nil _ _) hrest]

end Text

/-! ### The text of a path -/

namespace Path

/-- A path whose parts lead somewhere and are parts by their text, too: they hold no slash. -/
structure Plain (p : Path) : Prop where
  tidy : p.Tidy
  noSlash : ∀ part ∈ p.parts, '/' ∉ part.toList

theorem plain_ofString (s : String) : (ofString s).Plain := by
  refine ⟨tidy_ofString s, fun part hpart hslash => ?_⟩
  obtain ⟨piece, hpiece, rfl⟩ := List.mem_map.mp hpart
  rw [String.toList_ofList] at hslash
  have hwhole := Text.not_divides_of_mem_splitWhere (List.mem_filter.mp hpiece).1
  cases hwhole '/' hslash

/-- The empty pieces that the slashes of an anchor leave. -/
def anchorPieces : Anchor → List String
  | .here => []
  | .root => [""]
  | .doubleRoot => ["", ""]

theorem splitSlash_anchorText (a : Anchor) (cs : List Char) :
    Text.splitSlash ((anchorText a).toList ++ cs)
      = (anchorPieces a).map String.toList ++ Text.splitSlash cs := by
  cases a <;> rfl

/-- An anchor is read off a text in front of which it stands. -/
theorem anchorOf_anchorText (a : Anchor) {c : Char} (hc : c ≠ '/') (cs : List Char) :
    anchorOf ((anchorText a).toList ++ c :: cs) = a := by
  cases a with
  | here =>
    change anchorOf (c :: cs) = .here
    unfold anchorOf
    split
    · next h => exact absurd (List.cons.inj h).1 hc
    · next h => exact absurd (List.cons.inj h).1 hc
    · next h => exact absurd (List.cons.inj h).1 hc
    · rfl
  | root =>
    change anchorOf ('/' :: c :: cs) = .root
    unfold anchorOf
    split
    · next h => exact absurd (List.cons.inj (List.cons.inj h).2).1 hc
    · next h => exact absurd (List.cons.inj (List.cons.inj h).2).1 hc
    · rfl
    · next hroot => exact absurd rfl (hroot _)
  | doubleRoot =>
    change anchorOf ('/' :: '/' :: c :: cs) = .doubleRoot
    unfold anchorOf
    split
    · next h => exact absurd (List.cons.inj (List.cons.inj (List.cons.inj h).2).2).1 hc
    · rfl
    · next hdouble h => exact absurd (List.cons.inj h).2.symm (hdouble _)
    · next hroot => exact absurd rfl (hroot _)

variable {p : Path}

theorem toList_text (h : p.parts ≠ []) :
    p.text.toList
      = (anchorText p.anchor).toList ++ ['/'].intercalate (p.parts.map String.toList) := by
  rw [text, if_neg fun hempty => h hempty.2, String.toList_append, String.toList_intercalate]
  rfl

/-- The first character of the parts of a plain path, which are not empty, is none of the
anchor's. -/
theorem exists_first (hp : p.Plain) (h : p.parts ≠ []) :
    ∃ c cs, c ≠ '/' ∧ ['/'].intercalate (p.parts.map String.toList) = c :: cs := by
  obtain ⟨first, rest, hparts⟩ := List.exists_cons_of_ne_nil h
  have hfirst : first ∈ p.parts := by
    rw [hparts]
    exact List.mem_cons_self
  have hempty : first.toList ≠ [] :=
    fun hnil => (hp.tidy first hfirst).1 (String.toList_inj.mp hnil)
  obtain ⟨c, cs, hlist⟩ := List.exists_cons_of_ne_nil hempty
  have hc : c ≠ '/' := by
    rintro rfl
    refine hp.noSlash first hfirst ?_
    rw [hlist]
    exact List.mem_cons_self
  rw [hparts, List.map_cons, hlist]
  cases rest with
  | nil => exact ⟨c, cs, hc, List.intercalate_singleton⟩
  | cons second rest =>
    rw [List.map_cons, List.intercalate_cons_cons]
    exact ⟨c, _, hc, rfl⟩

/-- The anchor of a path is the one that its text begins with. -/
theorem anchorOf_text (hp : p.Plain) (h : p.parts ≠ []) : anchorOf p.text.toList = p.anchor := by
  obtain ⟨c, cs, hc, hparts⟩ := exists_first hp h
  rw [toList_text h, hparts, anchorOf_anchorText p.anchor hc]

/-- **The text of a path falls into its parts again**, behind the empty pieces that the slashes of
the anchor leave. -/
theorem pieces_text (hp : p.Plain) (h : p.parts ≠ []) :
    (Text.splitSlash p.text.toList).map String.ofList = anchorPieces p.anchor ++ p.parts := by
  have hwhole : ∀ piece ∈ p.parts.map String.toList, '/' ∉ piece := by
    intro piece hpiece
    obtain ⟨part, hpart, rfl⟩ := List.mem_map.mp hpiece
    exact hp.noSlash part hpart
  have hback : ∀ parts : List String, (parts.map String.toList).map String.ofList = parts := by
    intro parts
    rw [List.map_map]
    exact List.map_id'' (fun part => String.ofList_toList) parts
  rw [toList_text h, splitSlash_anchorText,
    Text.splitSlash_intercalate (fun hnil => h (List.map_eq_nil_iff.mp hnil)) hwhole,
    List.map_append, hback, hback]

theorem text_ne_empty (hp : p.Plain) (h : p.parts ≠ []) : p.text ≠ "" := by
  intro hempty
  obtain ⟨c, cs, -, hparts⟩ := exists_first hp h
  have hlist := toList_text h
  rw [hempty, hparts] at hlist
  cases (List.append_eq_nil_iff.mp hlist.symm).2

end Path

/-- A file of a plain name in a plain directory has a plain path. -/
theorem Store.plain_child {directory : Path} {name : String} (h : Store.isPlainName name = true)
    (hdirectory : directory.Plain) : (directory.child name).Plain := by
  obtain ⟨-, hslash, -⟩ := Store.isPlainName_iff.mp h
  refine ⟨Store.tidy_child h hdirectory.tidy, fun part hpart => ?_⟩
  rw [Store.child_of_isPlainName h] at hpart
  rcases List.mem_append.mp hpart with hpart | hpart
  · exact hdirectory.noSlash part hpart
  · rwa [List.mem_singleton.mp hpart]

/-! ### Reading -/

namespace FileSystem

variable {α : Type} {fs : FileSystem α} {p : Path}

/-- A walk goes on from where the first parts lead. -/
theorem walk_append_eq_ok_iff {root : Node α} {place mid found : List String}
    {parts rest : List String} (h : walk root place parts = .ok mid) :
    walk root place (parts ++ rest) = .ok found ↔ walk root mid rest = .ok found := by
  induction parts generalizing place with
  | nil =>
    obtain rfl := Except.ok.inj h
    rfl
  | cons part parts ih =>
    obtain ⟨hplace, hfollow, h⟩ := walk_cons_eq_ok_iff.mp h
    rw [List.cons_append, walk_cons_eq_ok_iff, ih h, and_iff_right hplace, and_iff_right hfollow]

/-- A walk that leads somewhere still does when nothing on it has gone. -/
theorem walk_of_kept {old new : Node α} {place found parts : List String}
    (hdirectory : ∀ place, old.at? place = some .directory → new.at? place = some .directory)
    (hkept : ∀ place, old.at? place ≠ none → new.at? place ≠ none)
    (h : walk old place parts = .ok found) : walk new place parts = .ok found := by
  induction parts generalizing place with
  | nil => exact h
  | cons part parts ih =>
    obtain ⟨hplace, hfollow, h⟩ := walk_cons_eq_ok_iff.mp h
    refine walk_cons_eq_ok_iff.mpr ⟨hdirectory _ hplace, ?_, ih h⟩
    exact hfollow.imp_right (Or.imp_right (Or.imp_right (And.imp_right (hkept _))))

theorem hasSlot_of_writeFile {content : α} {new : FileSystem α}
    (h : fs.writeFile p content = .ok new) : ∃ place name, fs.HasSlot p place name := by
  unfold writeFile at h
  split at h
  · cases h
  · cases h
  · next place name hslot => exact ⟨place, name, hasSlot_of_slot hslot⟩

/-- The path of a file that has been written leads to it. -/
theorem locate_of_writeFile (hp : p.Tidy) {content : α} {new : FileSystem α}
    (h : fs.writeFile p content = .ok new) : new.locate p = .ok (fs.goal p) := by
  obtain ⟨hcwd, hold, hat⟩ := writeFile_eq_ok hp h
  obtain ⟨place, name, hslot⟩ := hasSlot_of_writeFile h
  have hparts := Path.parts_eq_of_getLast? hslot.last
  have htidy := hp name (List.mem_of_getLast? hslot.last)
  have hlead : lead place name = place ++ [name] := by
    rw [lead, if_neg (not_or.mpr htidy), if_neg hslot.not_up]
  have hgoal : fs.goal p = place ++ [name] := by
    obtain ⟨rfl, -⟩ := walk_eq_ok hslot.walk
    rw [← hlead, goal, hparts, List.foldl_append]
    rfl
  -- the directories that were there are there, as the file is in the place of none
  have hdirectory : ∀ place, fs.at? place = some .directory → new.at? place = some .directory := by
    intro place hplace
    rw [hat, if_neg, hplace]
    rintro rfl
    exact hold hplace
  have hkept : ∀ place, fs.at? place ≠ none → new.at? place ≠ none := by
    intro place hplace
    rw [hat]
    split
    · simp
    · exact hplace
  have hwalk : walk new.root (new.origin p.anchor) p.parent.parts = .ok place := by
    have horigin : new.origin p.anchor = fs.origin p.anchor := by
      unfold origin
      rw [hcwd]
    rw [horigin]
    exact walk_of_kept hdirectory hkept hslot.walk
  have hthere : new.at? (place ++ [name]) ≠ none := by
    rw [hat, if_pos hgoal.symm]
    simp
  rw [locate, if_neg (Nat.not_le.mpr hslot.short), hparts, walk_append_eq_ok_iff hwalk,
    walk_cons_eq_ok_iff, hlead, hgoal]
  exact ⟨hdirectory place hslot.directory, Or.inr (Or.inr (Or.inr ⟨hslot.fits, hthere⟩)), rfl⟩

/-- The slashes of an anchor lead nowhere from the root. -/
theorem walk_anchorPieces {part : String} {parts place : List String} {a : Anchor}
    (h : walk fs.root (fs.origin a) (part :: parts) = .ok place) :
    walk fs.root (fs.origin a) (Path.anchorPieces a ++ part :: parts) = .ok place := by
  obtain ⟨hdirectory, -⟩ := walk_cons_eq_ok_iff.mp h
  have hidle : ∀ rest, walk fs.root (fs.origin a) rest = .ok place →
      walk fs.root (fs.origin a) ("" :: rest) = .ok place := by
    intro rest hrest
    refine walk_cons_eq_ok_iff.mpr ⟨hdirectory, Or.inl rfl, ?_⟩
    rwa [lead, if_pos (Or.inl rfl)]
  cases a with
  | here => exact h
  | root => exact hidle _ h
  | doubleRoot => exact hidle _ (hidle _ h)

/-- A file is read under the text of a path that leads to it. -/
theorem readFile_text (hp : p.Plain) (hparts : p.parts ≠ []) {place : List String} {content : α}
    (hlocate : fs.locate p = .ok place) (hfile : fs.at? place = some (.file content)) :
    fs.readFile p.text = .ok content := by
  unfold locate at hlocate
  split at hlocate
  · cases hlocate
  next hshort =>
  obtain ⟨part, parts, hcons⟩ := List.exists_cons_of_ne_nil hparts
  have hwalk : walk fs.root (fs.origin p.anchor) (Path.anchorPieces p.anchor ++ p.parts)
      = .ok place := by
    rw [hcons] at hlocate ⊢
    exact walk_anchorPieces hlocate
  have hget : fs.root.get? place = some (.file content) := by
    unfold at? Node.at? at hfile
    obtain ⟨node, hnode, hfound⟩ := Option.map_eq_some_iff.mp hfile
    cases node with
    | file there => rw [hnode, Occupant.file.inj hfound]
    | directory entries => cases hfound
  have hempty : ¬ p.text.isEmpty = true := by
    rw [String.isEmpty_iff]
    exact Path.text_ne_empty hp hparts
  unfold readFile
  rw [Path.pieces_text hp hparts, Path.anchorOf_text hp hparts]
  dsimp only
  rw [if_neg hempty, if_neg hshort, hwalk]
  dsimp only
  rw [hget]

/-- **A file that has been written is read back.** -/
theorem readFile_of_writeFile (hp : p.Plain) {content : α} {new : FileSystem α}
    (h : fs.writeFile p content = .ok new) : new.readFile p.text = .ok content := by
  obtain ⟨-, -, hat⟩ := writeFile_eq_ok hp.tidy h
  obtain ⟨place, name, hslot⟩ := hasSlot_of_writeFile h
  have hparts : p.parts ≠ [] := by
    intro hnil
    have hlast := hslot.last
    rw [hnil] at hlast
    cases hlast
  refine readFile_text hp hparts (locate_of_writeFile hp.tidy h) ?_
  rw [hat, if_pos rfl]

end FileSystem

end Gridwork
