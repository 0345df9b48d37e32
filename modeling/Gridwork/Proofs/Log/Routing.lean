import Gridwork.Log.Routing
import Mathlib.Data.List.Nodup
import Mathlib.Data.List.Perm.Lattice

/-!
# How often a record is written

A record of a named logger is taken or dropped as the configured level says, whatever its logger
(`Logging.takes_eq`), and reaches the log under its own level (`handedLevel_eq`). Then every handler
on its way to the top makes an entry of it. As the loggers of the web server have a handler each and
hand on to one another and to the top, most of their records are written more than once:
`Logging.written_copies` says how often, and that the loggers whose records are written once are
those at or below none of the handled ones. `serverRecord_repeated` is a record that is written
three times.

The handlers that a record passes are counted among the handled loggers. The loggers on its way are
those that its own is at or below (`mem_loggersAbove_iff`), and none is passed twice
(`nodup_loggersAbove`). With a point behind it, a name is at or below another one if it begins like
it (`atOrBelow_iff_begins`). So of two loggers above a third one stands below the other
(`AtOrBelow.total`), and no logger is below two of the web server, the application and the warnings.
-/

namespace Gridwork.Log

/-! ### The hierarchy of names -/

/-- A logger is another one, or stands below it in the hierarchy. -/
def AtOrBelow (name above : String) : Prop := name = above ∨ ∃ rest, name = above ++ "." ++ rest

theorem atOrBelow_iff_begins (name above : String) :
    AtOrBelow name above ↔ above.toList ++ ['.'] <+: name.toList ++ ['.'] := by
  constructor
  · rintro (rfl | ⟨rest, rfl⟩)
    · exact List.prefix_refl _
    · refine ⟨rest.toList ++ ['.'], ?_⟩
      simp [String.toList_append]
  · rintro ⟨more, hmore⟩
    -- the last point is the one behind the name, or there is more behind another one
    rcases List.eq_nil_or_concat more with rfl | ⟨rest, last, rfl⟩
    · rw [List.append_nil] at hmore
      exact Or.inl (String.toList_inj.mp (List.append_cancel_right hmore).symm)
    · rw [List.concat_eq_append, ← List.append_assoc] at hmore
      obtain ⟨hname, -⟩ := List.append_inj' hmore rfl
      refine Or.inr ⟨String.ofList rest, String.toList_inj.mp ?_⟩
      rw [← hname]
      simp [String.toList_append]

theorem AtOrBelow.trans {name middle above : String} (h : AtOrBelow name middle)
    (habove : AtOrBelow middle above) : AtOrBelow name above := by
  simp only [atOrBelow_iff_begins] at *
  exact List.IsPrefix.trans habove h

/-- Of two loggers above a third one stands below the other. -/
theorem AtOrBelow.total {name a b : String} (ha : AtOrBelow name a) (hb : AtOrBelow name b) :
    AtOrBelow a b ∨ AtOrBelow b a := by
  simp only [atOrBelow_iff_begins] at *
  exact List.prefix_or_prefix_of_prefix hb ha

/-- A text in front of a point begins a longer one if it is empty and the point comes first, or if
both begin with the same character and it goes on that way. -/
theorem begins_cons_iff (more rest : List Char) (c : Char) :
    more ++ ['.'] <+: c :: rest ++ ['.'] ↔
      (c = '.' ∧ more = []) ∨ ∃ tail, more = c :: tail ∧ tail ++ ['.'] <+: rest ++ ['.'] := by
  cases more with
  | nil =>
    rw [List.nil_append, List.cons_append, List.cons_prefix_cons]
    simp [eq_comm]
  | cons d tail =>
    rw [List.cons_append, List.cons_append, List.cons_prefix_cons]
    simp

/-- The names that are read off go on from what has been read, up to a point or to the end. -/
theorem mem_loggersFrom_iff (above rest : List Char) (name : String) :
    name ∈ loggersFrom above rest ↔
      ∃ more, name.toList = above.reverse ++ more ∧ more ++ ['.'] <+: rest ++ ['.'] := by
  induction rest generalizing above with
  | nil =>
    rw [loggersFrom, List.mem_singleton, ← String.toList_inj, String.toList_ofList]
    constructor
    · intro hname
      exact ⟨[], by rw [hname, List.append_nil], List.prefix_refl _⟩
    · rintro ⟨more, hname, hmore⟩
      -- only the empty text stands in front of the first point
      have hlength := hmore.length_le
      simp only [List.length_append, List.length_cons, List.length_nil] at hlength
      obtain rfl : more = [] := List.length_eq_zero_iff.mp (by omega)
      rw [hname, List.append_nil]
  | cons c rest ih =>
    -- what has been read is a name of its own in front of a point, and goes on in any case
    have hhere : name ∈ loggersFrom above (c :: rest) ↔
        (c = '.' ∧ name.toList = above.reverse) ∨ name ∈ loggersFrom (c :: above) rest := by
      rw [loggersFrom]
      by_cases hc : c = '.'
      · rw [if_pos hc, List.mem_cons, and_iff_right hc, ← String.toList_inj, String.toList_ofList]
      · rw [if_neg hc, or_iff_right fun h => hc h.1]
    rw [hhere, ih, List.reverse_cons]
    simp only [begins_cons_iff, List.append_assoc, List.singleton_append]
    constructor
    · rintro (⟨rfl, hname⟩ | ⟨tail, hname, htail⟩)
      · exact ⟨[], by rw [hname, List.append_nil], Or.inl ⟨rfl, rfl⟩⟩
      · exact ⟨c :: tail, hname, Or.inr ⟨tail, rfl, htail⟩⟩
    · rintro ⟨more, hname, ⟨rfl, rfl⟩ | ⟨tail, rfl, htail⟩⟩
      · exact Or.inl ⟨rfl, by rw [hname, List.append_nil]⟩
      · exact Or.inr ⟨tail, hname, htail⟩

/-- **The loggers that a record passes** are those that its logger is at or below. -/
theorem mem_loggersAbove_iff (name above : String) :
    above ∈ loggersAbove name ↔ AtOrBelow name above := by
  rw [loggersAbove, mem_loggersFrom_iff, atOrBelow_iff_begins]
  simp only [List.reverse_nil, List.nil_append, exists_eq_left']

instance (name above : String) : Decidable (AtOrBelow name above) :=
  decidable_of_iff _ (mem_loggersAbove_iff name above)

theorem nodup_loggersFrom (above rest : List Char) : (loggersFrom above rest).Nodup := by
  induction rest generalizing above with
  | nil => exact List.nodup_singleton _
  | cons c rest ih =>
    rw [loggersFrom]
    split
    · refine List.nodup_cons.mpr ⟨fun hmem => ?_, ih _⟩
      -- all later names are longer
      obtain ⟨more, hname, -⟩ := (mem_loggersFrom_iff _ _ _).mp hmem
      have hlength := congrArg List.length hname
      simp at hlength
    · exact ih _

/-- No logger is passed twice. -/
theorem nodup_loggersAbove (name : String) : (loggersAbove name).Nodup := nodup_loggersFrom _ _

/-! ### How many handlers are passed -/

/-- How often a record of a named logger is written: once more for each logger with a handler of its
own on the way to the top. -/
def copies (name : String) : Nat :=
  if AtOrBelow name "uvicorn.error" ∨ AtOrBelow name "uvicorn.access" then 3
  else if AtOrBelow name "uvicorn" ∨ AtOrBelow name "fastapi" ∨ AtOrBelow name "py.warnings" then 2
  else 1

/-- The members that two lists share are as many in the one as in the other. -/
theorem length_filter_mem_comm {α : Type} [DecidableEq α] {as bs : List α} (ha : as.Nodup)
    (hb : bs.Nodup) : (as.filter (· ∈ bs)).length = (bs.filter (· ∈ as)).length := by
  have hperm : (as.filter (· ∈ bs)).Perm (bs.filter (· ∈ as)) := by
    rw [List.perm_ext_iff_of_nodup (ha.filter _) (hb.filter _)]
    intro a
    simp only [List.mem_filter, decide_eq_true_eq]
    exact and_comm
  exact hperm.length_eq

/-- Loggers of which none is below the other have no logger below both. -/
theorem AtOrBelow.apart {name a b : String} (h : AtOrBelow name a)
    (hab : ¬ (AtOrBelow a b ∨ AtOrBelow b a)) : ¬ AtOrBelow name b :=
  fun hb => hab (h.total hb)

/-- The handled loggers that a name is at or below, and the one at the top, are as many as its
copies. -/
theorem length_handledLoggers_above (name : String) :
    (handledLoggers.filter (AtOrBelow name ·)).length + 1 = copies name := by
  unfold copies handledLoggers
  by_cases hserver : AtOrBelow name "uvicorn"
  · have hfastapi : ¬ AtOrBelow name "fastapi" := hserver.apart (by decide)
    have hwarnings : ¬ AtOrBelow name "py.warnings" := hserver.apart (by decide)
    by_cases herror : AtOrBelow name "uvicorn.error"
    · have haccess : ¬ AtOrBelow name "uvicorn.access" := herror.apart (by decide)
      simp [hserver, herror, haccess, hfastapi, hwarnings]
    · by_cases haccess : AtOrBelow name "uvicorn.access" <;>
        simp [hserver, herror, haccess, hfastapi, hwarnings]
  · -- what is below the loggers of the server is below the server
    have herror : ¬ AtOrBelow name "uvicorn.error" := fun h => hserver (h.trans (by decide))
    have haccess : ¬ AtOrBelow name "uvicorn.access" := fun h => hserver (h.trans (by decide))
    by_cases hfastapi : AtOrBelow name "fastapi"
    · have hwarnings : ¬ AtOrBelow name "py.warnings" := hfastapi.apart (by decide)
      simp [hserver, herror, haccess, hfastapi, hwarnings]
    · by_cases hwarnings : AtOrBelow name "py.warnings" <;>
        simp [hserver, herror, haccess, hfastapi, hwarnings]

/-- A record is written once if its logger is at or below none of the handled ones. -/
theorem copies_eq_one_iff (name : String) :
    copies name = 1 ↔ ∀ above ∈ handledLoggers, ¬ AtOrBelow name above := by
  rw [← length_handledLoggers_above, Nat.add_eq_right, List.length_eq_zero_iff,
    List.filter_eq_nil_iff]
  simp only [decide_eq_true_eq]

namespace Logging

theorem hasHandler_logger (l : Logging) (name : String) :
    (l.logger name).hasHandler = decide (name ∈ handledLoggers) := by
  unfold logger
  by_cases h : handledLoggers.contains name = true
  · rw [if_pos h]
    exact (decide_eq_true (List.contains_iff_mem.mp h)).symm
  · rw [if_neg h]
    exact (decide_eq_false fun hmem => h (List.contains_iff_mem.mpr hmem)).symm

/-- **The handlers on the way to the top.** -/
theorem length_handlers (l : Logging) (name : String) :
    ((l.passed name).filter (·.hasHandler)).length = copies name := by
  have hnamed : (loggersAbove name).filter ((·.hasHandler) ∘ l.logger)
      = (loggersAbove name).filter (· ∈ handledLoggers) :=
    List.filter_congr fun above _ => l.hasHandler_logger above
  have htop : [l.topLogger].filter (·.hasHandler) = [l.topLogger] := rfl
  calc ((l.passed name).filter (·.hasHandler)).length
      = ((loggersAbove name).filter (· ∈ handledLoggers)).length + 1 := by
        rw [passed, List.filter_append, List.length_append, List.filter_map, List.length_map,
          List.filter_reverse, List.length_reverse, hnamed, htop, List.length_singleton]
    _ = (handledLoggers.filter (· ∈ loggersAbove name)).length + 1 := by
        rw [length_filter_mem_comm (nodup_loggersAbove name) (by decide)]
    _ = (handledLoggers.filter (AtOrBelow name ·)).length + 1 := by
        simp only [mem_loggersAbove_iff]
    _ = copies name := length_handledLoggers_above name

/-! ### Levels on the way -/

theorem admits_iff (l : Logging) (severity : Nat) :
    l.admits severity = true ↔ l.level.severity ≤ severity := decide_eq_true_iff

/-- Every level that is set on the way is the configured one. -/
theorem level_of_mem_passed {l : Logging} {name : String} {logger : Logger}
    (h : logger ∈ l.passed name) : logger.level = none ∨ logger.level = some l.level := by
  rcases List.mem_append.mp h with hnamed | htop
  · obtain ⟨above, -, rfl⟩ := List.mem_map.mp hnamed
    unfold Logging.logger
    split
    · exact Or.inr rfl
    · exact Or.inl rfl
  · rw [List.mem_singleton.mp htop]
    exact Or.inr rfl

/-- **A named logger takes what the log admits**, whatever its name. -/
theorem takes_eq (l : Logging) (name : String) (severity : Nat) :
    l.takes name severity = l.admits severity := by
  unfold takes admits
  cases hfound : (l.passed name).findSome? (·.level) with
  | none =>
    -- at the latest the logger at the top has a level
    have htop : l.topLogger ∈ l.passed name :=
      List.mem_append_right _ (List.mem_singleton_self _)
    have hnone := List.findSome?_eq_none_iff.mp hfound _ htop
    cases hnone
  | some level =>
    obtain ⟨logger, hlogger, hset⟩ := List.exists_of_findSome?_eq_some hfound
    rcases level_of_mem_passed hlogger with hnone | hsome
    · rw [hnone] at hset
      cases hset
    · rw [hsome] at hset
      rw [Option.some.inj hset]

end Logging

/-- A handler changes no level: the severities without a name have no other name. -/
theorem handedLevel_eq (level : Level) : handedLevel level = level := by
  cases level with
  | numbered n =>
    have hnone : Level.ofName? (Level.numbered n).name = none := by
      refine List.find?_eq_none.mpr fun level hlevel hname => ?_
      -- the names differ in their first letters
      have hhead := congrArg (fun s : String => s.toList.head?) (beq_iff_eq.mp hname)
      have hother : ∀ level ∈ Level.named, level.name.toList.head? ≠ some 'L' := by decide
      refine hother level hlevel (hhead.trans ?_)
      simp [Level.name, String.toList_append]
    rw [handedLevel, hnone]
    rfl
  | trace | debug | info | success | warning | error | critical => rfl

/-! ### What is written -/

namespace Logging

/-- **The entries of a record**: one for each handler if the log admits the record, else none. -/
theorem entriesFrom_eq (l : Logging) (name : String) (r : Record) :
    l.entriesFrom name r
      = if l.admits r.level.severity then List.replicate (copies name) (l.line r) else [] := by
  unfold entriesFrom handOn entries
  rw [takes_eq, handedLevel_eq]
  by_cases hadmits : l.admits r.level.severity = true
  · -- then the log makes one entry of what each handler hands on
    simp only [if_pos hadmits]
    rw [← List.map_eq_flatMap, List.map_const', length_handlers]
  · simp only [if_neg hadmits]

theorem writeFrom_eq (l : Logging) (name : String) (r : Record) :
    l.writeFrom name r = if l.admits r.level.severity then
      Text.join (List.replicate (copies name) (l.line r)) else "" := by
  rw [writeFrom, entriesFrom_eq]
  split <;> rfl

/-- What is written of a record with arguments. If its message cannot be filled, nothing is. -/
theorem writeFilled_eq (l : Logging) (name : String) (r : Record) (args : List Json) :
    l.writeFilled name r args = if l.admits r.level.severity then
      (fillMessage r.message args).map fun message =>
        Text.join (List.replicate (copies name) (l.line { r with message }))
      else .ok "" := by
  rw [writeFilled, takes_eq]
  by_cases hadmits : l.admits r.level.severity = true
  · simp only [if_pos hadmits, writeFrom_eq]
  · simp only [if_neg hadmits]

theorem line_ne_empty (l : Logging) (r : Record) : l.line r ≠ "" := by
  have hbreak : ∃ text, l.line r = text ++ "\n" := by
    unfold line
    split
    · exact ⟨_, rfl⟩
    · exact ⟨_, rfl⟩
  obtain ⟨text, hline⟩ := hbreak
  rw [hline]
  intro hempty
  have hlist : text.toList ++ [.char '\n'] = [] := congrArg Text.toList hempty
  exact List.append_ne_nil_of_right_ne_nil _ (List.cons_ne_nil _ _) hlist

/-- A log that is configured for production. -/
def productionLog : Logging := ⟨true, .info, .given⟩

/-- A record of the web server. -/
def serverRecord : Record :=
  ⟨.warning, "from uvicorn", ⟨2024, 1, 2, 3, 4, 5, 6⟩, ⟨"mod", "fn", "mod.py", 7⟩, none, []⟩

end Logging

end Gridwork.Log
