import Gridwork.Log.Line
import Gridwork.Proofs.Json.RoundTrip
import Gridwork.Proofs.Json.Node

/-!
# JSON log lines

A log line is one object of JSON on a line of its own (`Log.jsonLine_reads_back`): whoever reads it
back has exactly the fields that the record shows (`Log.ShownField`). These are what is bound to the
record unless it is private, and those fields of its own (`Log.OwnField`) that nothing bound
overrides. What is bound may be any tree that the reader takes (`Json.Plain`), and a message any
text, since the writer leaves nothing but visible characters in a line.
-/

namespace Gridwork

/-! ### Entries that are set one after the other -/

namespace Json.Entries

variable {entries changes : Entries} {key : Text}

/-- Setting a key adds it to the keys unless it is among them. -/
theorem map_fst_set (key : Text) (v : Json) (entries : Entries) :
    (set key v entries).map Prod.fst
      = if key ∈ entries.map Prod.fst then entries.map Prod.fst
        else entries.map Prod.fst ++ [key] := by
  induction entries with
  | nil => rfl
  | cons entry rest ih =>
    obtain ⟨l, w⟩ := entry
    rw [set]
    by_cases h : l = key
    · simp [h]
    · rw [if_neg h, List.map_cons, ih]
      by_cases hrest : key ∈ rest.map Prod.fst <;> simp [hrest, Ne.symm h]

theorem distinct_set (h : entries.Distinct) (key : Text) (v : Json) :
    (set key v entries).Distinct := by
  rw [Distinct, map_fst_set]
  split
  · exact h
  · next hnew =>
    rw [List.nodup_append]
    refine ⟨h, List.nodup_singleton key, ?_⟩
    rintro l hl k hk rfl
    rw [List.mem_singleton.mp hk] at hl
    exact hnew hl

theorem distinct_foldl_set (h : entries.Distinct) (changes : Entries) :
    Distinct (changes.foldl (fun entries e => set e.1 e.2 entries) entries) := by
  induction changes generalizing entries with
  | nil => exact h
  | cons change changes ih => exact ih (distinct_set h change.1 change.2)

theorem get?_eq_none_of_notMem (h : key ∉ entries.map Prod.fst) : entries.get? key = none := by
  refine List.lookup_eq_none_iff.mpr fun entry hentry => ?_
  rw [bne_iff_ne]
  rintro rfl
  exact h (List.mem_map_of_mem hentry)

/-- Of entries that are set one after the other, what is not set stays as it is. -/
theorem get?_foldl_set (h : changes.Distinct) (entries : Entries) (key : Text) :
    get? (changes.foldl (fun entries e => set e.1 e.2 entries) entries) key
      = (changes.get? key).or (entries.get? key) := by
  induction changes generalizing entries with
  | nil => rfl
  | cons change changes ih =>
    obtain ⟨k, v⟩ := change
    obtain ⟨hnew, hdistinct⟩ : k ∉ changes.map Prod.fst ∧ Distinct changes := List.nodup_cons.mp h
    rw [List.foldl_cons, ih hdistinct, get?_set]
    by_cases hkey : key = k
    · -- what is set first is not set once more
      subst hkey
      rw [get?_eq_none_of_notMem hnew, if_pos rfl, get?, List.lookup_cons_self]
      rfl
    · have hbehind : get? ((k, v) :: changes) key = get? changes key := by
        simp [get?, List.lookup_cons, beq_eq_false_iff_ne.mpr hkey]
      rw [if_neg hkey, hbehind]

end Json.Entries

namespace Log

variable {r : Record} {key : Text} {v : Json}

/-! ### The fields of a record -/

/-- The fields that a record has of its own. -/
inductive OwnField (r : Record) : Text → Json → Prop
  | trace (h : r.level = .trace) : OwnField r "level" (.str "DEBUG")
  | success (h : r.level = .success) : OwnField r "level" (.str "INFO")
  | level (htrace : r.level ≠ .trace) (hsuccess : r.level ≠ .success) :
    OwnField r "level" (.str r.level.name)
  | message : OwnField r "message" (.str r.message)
  | time : OwnField r "time" (.str r.time.iso)
  | logger : OwnField r "logger" (.str r.origin.module)
  | location (h : 40 ≤ r.level.severity) : OwnField r "location"
    (.str (r.origin.file ++ ":" ++ toString r.origin.line ++ ":" ++ r.origin.function : String))
  | exception {e : ExceptionInfo} (h : r.exception = some e) : OwnField r "exception"
    (.obj [("type", e.type.elim .null fun s => .str s), ("value", e.value.elim .null .str)])

/-- The fields that the line of a record shows: what is bound to it, unless it is private, and those
fields of its own that nothing bound overrides. -/
inductive ShownField (r : Record) (key : Text) (v : Json) : Prop
  | bound (h : (key, v) ∈ r.extra) (hpublic : key.toList.head? ≠ some (.char '_'))
  | own (h : OwnField r key v) (hfree : key ∉ r.extra.map Prod.fst)

theorem jsonLevelName_of_ne {level : Level} (htrace : level ≠ .trace)
    (hsuccess : level ≠ .success) : jsonLevelName level = level.name := by
  cases level <;> first | rfl | contradiction

theorem ownField_level : OwnField r "level" (.str (jsonLevelName r.level)) := by
  by_cases htrace : r.level = .trace
  · rw [htrace]
    exact .trace htrace
  · by_cases hsuccess : r.level = .success
    · rw [hsuccess]
      exact .success hsuccess
    · rw [jsonLevelName_of_ne htrace hsuccess]
      exact .level htrace hsuccess

/-- The fields of its own that are written of a record are those that it has. -/
theorem mem_ownFields_iff : (key, v) ∈ ownFields r ↔ OwnField r key v := by
  simp only [ownFields, List.mem_append, List.mem_ite_nil_right, List.mem_cons, List.not_mem_nil,
    or_false, Prod.mk.injEq]
  constructor
  · rintro (((⟨rfl, rfl⟩ | ⟨rfl, rfl⟩ | ⟨rfl, rfl⟩ | ⟨rfl, rfl⟩) | ⟨hsevere, rfl, rfl⟩) | h)
    · exact ownField_level
    · exact .message
    · exact .time
    · exact .logger
    · exact .location hsevere
    · cases hexception : r.exception with
      | none => simp [hexception] at h
      | some e =>
        obtain ⟨rfl, rfl⟩ : key = "exception" ∧ _ := by simpa [hexception] using h
        exact .exception hexception
  · intro h
    cases h with
    | trace h => simp [h, jsonLevelName, Level.name]
    | success h => simp [h, jsonLevelName, Level.name]
    | level htrace hsuccess => simp [jsonLevelName_of_ne htrace hsuccess]
    | message => simp
    | time => simp
    | logger => simp
    | location h => exact .inl (.inr ⟨h, rfl, rfl⟩)
    | exception h => simp [h]

theorem distinct_ownFields (r : Record) : (ownFields r).Distinct := by
  unfold ownFields Json.Entries.Distinct
  cases r.exception <;> by_cases h : Level.error.severity ≤ r.level.severity <;> simp [h]

theorem distinct_fields (r : Record) : (fields r).Distinct :=
  Json.Entries.distinct_foldl_set (distinct_ownFields r) r.context

/-- The private keys are none that a record has of its own. -/
theorem OwnField.head?_ne (h : OwnField r key v) : key.toList.head? ≠ some (.char '_') := by
  cases h <;> decide

theorem mem_context_iff :
    (key, v) ∈ r.context ↔ (key, v) ∈ r.extra ∧ key.toList.head? ≠ some (.char '_') := by
  simp [Record.context, isPrivate]

theorem distinct_context (h : r.extra.Distinct) : r.context.Distinct :=
  (List.filter_sublist.map Prod.fst).nodup h

/-- **The fields of a line are those that the record shows.** -/
theorem mem_fields_iff (hextra : r.extra.Distinct) : (key, v) ∈ fields r ↔ ShownField r key v := by
  have hcontext := distinct_context hextra
  rw [← Json.Entries.get?_eq_some_iff (distinct_fields r), fields,
    Json.Entries.get?_foldl_set hcontext, Option.or_eq_some_iff,
    Json.Entries.get?_eq_some_iff hcontext, Json.Entries.get?_eq_some_iff (distinct_ownFields r),
    mem_context_iff, mem_ownFields_iff]
  constructor
  · rintro (⟨hmem, hpublic⟩ | ⟨hnone, hown⟩)
    · exact .bound hmem hpublic
    · refine .own hown fun hkey => ?_
      obtain ⟨⟨key, w⟩, hmem, rfl⟩ := List.mem_map.mp hkey
      have hbound := mem_context_iff.mpr ⟨hmem, hown.head?_ne⟩
      rw [← Json.Entries.get?_eq_some_iff hcontext, hnone] at hbound
      cases hbound
  · rintro (⟨hmem, hpublic⟩ | ⟨hown, hfree⟩)
    · exact .inl ⟨hmem, hpublic⟩
    · refine .inr ⟨Json.Entries.get?_eq_none_of_notMem fun hkey => hfree ?_, hown⟩
      exact (List.filter_sublist.map Prod.fst).subset hkey

theorem OwnField.plain (h : OwnField r key v) : v.Plain := by
  cases h with
  | exception h =>
    have htype : ∀ s : Option String, (s.elim .null fun s => .str s : Json).Plain := by
      rintro (_ | s)
      · exact .null
      · exact .str s
    have hvalue : ∀ s : Option Text, (s.elim .null .str : Json).Plain := by
      rintro (_ | s)
      · exact .null
      · exact .str s
    refine .obj (by simp [Json.Entries.Distinct]) ?_
    simp [htype, hvalue]
  | _ => exact .str _

/-- The line of a record can be read back if what is bound to it can. -/
theorem plain_fields (h : (Json.obj r.extra).Plain) : (Json.obj (fields r)).Plain := by
  obtain ⟨hkeys, hvalues⟩ : r.extra.Distinct ∧ ∀ entry ∈ r.extra, entry.2.Plain := by
    cases h with
    | obj hkeys hvalues => exact ⟨hkeys, hvalues⟩
  refine .obj (distinct_fields r) fun entry hentry => ?_
  cases (mem_fields_iff hkeys).mp hentry with
  | bound hmem => exact hvalues _ hmem
  | own hown => exact hown.plain

/-! ### Records without split characters -/

/-- A record in which the halves of a character never stand side by side. -/
structure Record.Unsplit (r : Record) : Prop where
  message : r.message.Unsplit
  exception : ∀ e ∈ r.exception, ∀ text ∈ e.value, text.Unsplit
  extra : (Json.obj r.extra).Unsplit

theorem OwnField.unsplit (h : OwnField r key v) (hr : r.Unsplit) : key.Unsplit ∧ v.Unsplit := by
  have hstring : ∀ s : String, (Json.str s).Unsplit := fun s => .str (Text.unsplit_ofString s)
  cases h with
  | message => exact ⟨Text.unsplit_ofString _, .str hr.message⟩
  | @exception e h =>
    refine ⟨Text.unsplit_ofString _, .obj ?_ ?_⟩
    · simp [Text.unsplit_ofString]
    · have htype : ∀ s : Option String, (s.elim .null fun s => .str s : Json).Unsplit := by
        rintro (_ | s)
        · exact .null
        · exact hstring s
      have hvalue : (e.value.elim .null .str : Json).Unsplit := by
        cases hvalue : e.value with
        | none => exact .null
        | some text => exact .str (hr.exception e h text hvalue)
      simp [htype, hvalue]
  | _ => exact ⟨Text.unsplit_ofString _, hstring _⟩

theorem unsplit_fields (hextra : r.extra.Distinct) (hr : r.Unsplit) :
    (Json.obj (fields r)).Unsplit := by
  obtain ⟨hkeys, hvalues⟩ : (∀ entry ∈ r.extra, entry.1.Unsplit) ∧
      ∀ entry ∈ r.extra, entry.2.Unsplit := by
    cases hr.extra with
    | obj hkeys hvalues => exact ⟨hkeys, hvalues⟩
  have hshown : ∀ entry ∈ fields r, entry.1.Unsplit ∧ entry.2.Unsplit := by
    intro entry hentry
    cases (mem_fields_iff hextra).mp hentry with
    | bound hmem => exact ⟨hkeys _ hmem, hvalues _ hmem⟩
    | own hown => exact hown.unsplit hr
  exact .obj (fun entry hentry => (hshown entry hentry).1) fun entry hentry =>
    (hshown entry hentry).2

/-! ### Lines -/

/-- **A log line is one object of JSON**: a line of ASCII, whatever the record, from which the
fields that the record shows are read back unless a character is split in it. -/
theorem jsonLine_reads_back (r : Record) (h : (Json.obj r.extra).Plain) :
    (∃ text : String, jsonLine r = (text ++ "\n" : String) ∧ '\n' ∉ text.toList ∧
      Text.IsAscii text) ∧
      (r.Unsplit → ∃ entries : Json.Entries, Json.parse none (jsonLine r) = .ok (.obj entries) ∧
        entries.Distinct ∧ ∀ key v, (key, v) ∈ entries ↔ ShownField r key v) := by
  have hplain := plain_fields h
  have hdistinct : r.extra.Distinct := by
    cases h with
    | obj hkeys => exact hkeys
  refine ⟨?_, fun hr => ⟨fields r, hplain.parse_line (unsplit_fields hdistinct hr),
    distinct_fields r, fun key v => mem_fields_iff hdistinct⟩⟩
  obtain ⟨text, htext, hvisible⟩ := Json.Visible.exists_string (t := Json.write (.obj (fields r)))
    hplain.visible
  refine ⟨text, ?_, fun hbreak => ?_, fun c hc => Nat.lt_of_le_of_lt (hvisible c hc).2 (by decide)⟩
  · rw [jsonLine, htext, Text.ofString_append]
  · exact absurd (hvisible _ hbreak).1 (by decide)

/-- A bound value takes the place of the level, and another one is private. -/
theorem jsonLine_reads_back_overridden :
    let r : Record :=
      ⟨.error, "a \"line\"\nof 😀", ⟨2024, 1, 2, 3, 4, 5, 6⟩, ⟨"service", "run", "service.py", 7⟩,
        some ⟨some "OSError", none⟩, [("level", .int 3), ("_token", .str "x"),
          ("sheets", .arr [.null, .obj [("\x7f", .bool true)]])]⟩
    (Json.obj r.extra).Plain ∧ r.Unsplit ∧ ∃ entries : Json.Entries,
      Json.parse none (jsonLine r) = .ok (.obj entries) ∧
        (⟨"level", .int 3⟩ : Text × Json) ∈ entries ∧
        (⟨"message", .str r.message⟩ : Text × Json) ∈ entries ∧
        (⟨"level", .str "ERROR"⟩ : Text × Json) ∉ entries ∧
          ∀ v, (⟨"_token", v⟩ : Text × Json) ∉ entries := by
  intro r
  have hsheet : (Json.obj [("\x7f", .bool true)]).Plain :=
    .obj (List.nodup_singleton _) (List.forall_mem_singleton.mpr (.bool true))
  have hsheets : (Json.arr [.null, .obj [("\x7f", .bool true)]]).Plain :=
    .arr (List.forall_mem_cons.mpr ⟨.null, List.forall_mem_singleton.mpr hsheet⟩)
  have hkeys : (r.extra.map Prod.fst).Nodup := by decide
  have hplain : (Json.obj r.extra).Plain :=
    .obj hkeys (List.forall_mem_cons.mpr ⟨.int (by decide),
      List.forall_mem_cons.mpr ⟨.str "x", List.forall_mem_singleton.mpr hsheets⟩⟩)
  have hsplit : (Json.obj r.extra).Unsplit := by
    refine .obj (by decide) (List.forall_mem_cons.mpr ⟨.int 3, List.forall_mem_cons.mpr
      ⟨.str (by decide), List.forall_mem_singleton.mpr (.arr (List.forall_mem_cons.mpr
        ⟨.null, List.forall_mem_singleton.mpr (.obj (by decide) ?_)⟩))⟩⟩)
    exact List.forall_mem_singleton.mpr (.bool true)
  have hunsplit : r.Unsplit := ⟨by decide, by simp [r], hsplit⟩
  obtain ⟨entries, hparse, -, hshown⟩ := (jsonLine_reads_back r hplain).2 hunsplit
  have hlevel : (⟨"level", .int 3⟩ : Text × Json) ∈ r.extra := List.mem_cons_self
  refine ⟨hplain, hunsplit, entries, hparse, (hshown _ _).mpr (.bound hlevel (by decide)),
    (hshown _ _).mpr (.own .message (by decide)), ?_, ?_⟩
  · rw [hshown]
    rintro (⟨hmem, -⟩ | ⟨-, hfree⟩)
    · revert hmem
      decide
    · exact hfree (List.mem_map_of_mem hlevel)
  · intro v
    rw [hshown]
    rintro (⟨-, hpublic⟩ | ⟨hown, -⟩)
    · exact hpublic (by decide)
    · exact hown.head?_ne (by decide)

/-- A record whose message is a split character. -/
def splitRecord : Record :=
  ⟨.warning, ⟨[.ofNat 0xD83D, .ofNat 0xDE00]⟩, ⟨2024, 1, 2, 3, 4, 5, 6⟩,
    ⟨"mod", "fn", "mod.py", 7⟩, none, []⟩

/-- **A message that is not read back**: the reader joins what was split. -/
theorem splitRecord_joined :
    (Json.obj splitRecord.extra).Plain ∧
      ¬ ∃ entries : Json.Entries, Json.parse none (jsonLine splitRecord) = .ok (.obj entries) ∧
        ∀ key v, (key, v) ∈ entries ↔ ShownField splitRecord key v := by
  refine ⟨.obj List.nodup_nil (List.forall_mem_nil _), ?_⟩
  rintro ⟨entries, hparse, hshown⟩
  have hread : Json.parse none (jsonLine splitRecord) = .ok (.obj [("level", .str "WARNING"),
      ("message", .str "😀"), ("time", .str "2024-01-02T03:04:05.000006+00:00"),
      ("logger", .str "mod")]) := by decide +kernel
  obtain rfl := Json.obj.inj (Except.ok.inj (hparse.symm.trans hread))
  have hmessage := (hshown _ _).mpr (.own (.message (r := splitRecord)) (by decide))
  revert hmessage
  decide

end Log

end Gridwork
