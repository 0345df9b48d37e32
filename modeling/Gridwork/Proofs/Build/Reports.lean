import Gridwork.Proofs.Build.Laws
import Gridwork.Proofs.Json.Node

/-!
# Building does not look at what it has reported

Events go to the log, and no step of building looks at those that have gone there. Two steps are the
same but for reports (`Build.SameButReports`) if, begun on the same thing, they end in the same way
and with the same thing built, whatever has been reported before and is reported by them. A step
that is so to itself takes no notice of earlier reports (`Build.IgnoresReports`), and every step of
building is.

A report by itself is the same as nothing at all. Hence the entries of a request that are passed
over count for nothing, and what comes of a request is what comes of its workbook, in whichever
place it stands: `Build.buildEntries_sameButReports`.
-/

namespace Gridwork

namespace Build

/-! ### Steps that are the same but for reports -/

section Rules

variable {σ α β : Type}

/-- Two ends with the same result and the same thing built. -/
inductive SameEnd :
    EStateM.Result Failure (Progress σ) α → EStateM.Result Failure (Progress σ) α → Prop
  | ok (a : α) (s : σ) (events events' : Array Event) :
      SameEnd (.ok a ⟨s, events⟩) (.ok a ⟨s, events'⟩)
  | error (e : Failure) (s : σ) (events events' : Array Event) :
      SameEnd (.error e ⟨s, events⟩) (.error e ⟨s, events'⟩)

/-- Two steps that end in the same way, whatever has been reported before them. -/
def SameButReports (m m' : Build σ α) : Prop :=
  ∀ s events events', SameEnd (m ⟨s, events⟩) (m' ⟨s, events'⟩)

/-- A step takes no notice of what has been reported. -/
abbrev IgnoresReports (m : Build σ α) : Prop := SameButReports m m

theorem SameButReports.symm {m m' : Build σ α} (h : SameButReports m m') :
    SameButReports m' m := by
  intro s events events'
  have hends := h s events' events
  generalize m ⟨s, events'⟩ = x at hends
  generalize m' ⟨s, events⟩ = y at hends
  cases hends with
  | ok => exact .ok _ _ _ _
  | error => exact .error _ _ _ _

theorem SameButReports.trans {m m' m'' : Build σ α} (h : SameButReports m m')
    (h' : SameButReports m' m'') : SameButReports m m'' := by
  intro s events events'
  -- nothing needs to have been reported before the step in the middle
  have hends := h s events #[]
  have hends' := h' s #[] events'
  generalize m ⟨s, events⟩ = x at hends
  generalize m' ⟨s, #[]⟩ = y at hends hends'
  generalize m'' ⟨s, events'⟩ = z at hends'
  cases hends with
  | ok => cases hends' with | ok => exact .ok _ _ _ _
  | error => cases hends' with | error => exact .error _ _ _ _

/-- A report by itself is the same as nothing. -/
theorem report_sameButReports (e : Event) : SameButReports (report e) (pure () : Build σ Unit) :=
  fun s events events' => .ok () s (events.push e) events'

theorem SameButReports.bind {m m' : Build σ α} {f f' : α → Build σ β} (hm : SameButReports m m')
    (hf : ∀ a, SameButReports (f a) (f' a)) : SameButReports (m >>= f) (m' >>= f') := by
  intro s events events'
  have hends := hm s events events'
  -- the bind of the class is that of `EStateM` by definition only
  change SameEnd (EStateM.bind m f ⟨s, events⟩) (EStateM.bind m' f' ⟨s, events'⟩)
  unfold EStateM.bind
  generalize m ⟨s, events⟩ = x at hends
  generalize m' ⟨s, events'⟩ = y at hends
  cases hends with
  | ok a t events events' => exact hf a t events events'
  | error e t events events' => exact .error e t events events'

end Rules

/-! ### No step looks at reports -/

theorem stepLaws_ignoresReports {σ : Type} :
    StepLaws fun {α} (m : Build σ α) => IgnoresReports m where
  pure a := fun s events events' => .ok a s events events'
  stop e := fun s events events' => .error (.build e) s events events'
  report e := (report_sameButReports e).trans (report_sameButReports e).symm
  bind hm hf := hm.bind hf
  look {β} {f} hstate hf := by
    intro s events events'
    -- both runs look at the same thing, and go on in the same way
    have hends := hf ⟨s, events⟩ s events events'
    have heq := hstate s events events'
    change SameEnd (f ⟨s, events⟩ ⟨s, events⟩) (f ⟨s, events'⟩ ⟨s, events'⟩)
    rwa [← heq]

theorem sheetLaws_ignoresReports : SheetLaws fun {α} (m : Build Sheet α) => IgnoresReports m where
  toStepLaws := stepLaws_ignoresReports
  writeCell row column content style := by
    intro s events events'
    unfold writeCell
    split
    · exact .ok () (s.push ⟨row.toNat, column, content, style⟩) events events'
    · exact .error .rowOutOfRange s events events'
  moveCursor := fun s events events' => .ok () s.reserveRow events events'

theorem workbookLaws_ignoresReports :
    WorkbookLaws fun {α} (m : Build Workbook α) => IgnoresReports m where
  toStepLaws := stepLaws_ignoresReports
  addSheet title path plan := by
    intro w events events'
    have hends := sheetLaws_ignoresReports.writeSheet path plan (.empty title 1) events events'
    unfold withNewSheet
    dsimp only
    generalize writeSheet path plan ⟨.empty title 1, events⟩ = x at hends
    generalize writeSheet path plan ⟨.empty title 1, events'⟩ = y at hends
    cases hends with
    | ok a s events events' => exact .ok a (w.addSheet s) events events'
    | error e s events events' => exact .error e (w.addSheet s) events events'

/-! ### Requests -/

/-- Builds the workbook of a request, if it has one. -/
def buildWorkbook? : Option Json → Build Workbook Unit
  | none => pure ()
  | some node => buildWorkbookNode node

/-- Of the entries of a request only the workbook counts, in whichever place it stands. -/
theorem buildEntries_sameButReports {entries : Json.Entries} (h : entries.Distinct) (i : Nat) :
    SameButReports (forEach (fun _ => buildEntry) i entries)
      (buildWorkbook? (entries.get? Field.workbook)) := by
  induction entries generalizing i with
  | nil => exact stepLaws_ignoresReports.pure ()
  | cons entry rest ih =>
    obtain ⟨key, node⟩ := entry
    obtain ⟨hfresh, hrest⟩ := List.nodup_cons.mp h
    unfold Json.Entries.get? at ih ⊢
    rw [forEach, buildEntry, List.lookup_cons]
    by_cases hkey : Field.workbook = key
    · -- the workbook is built, and the rest has none
      subst hkey
      have hnone : rest.lookup Field.workbook = none := by
        refine List.lookup_eq_none_iff.mpr fun entry hentry => ?_
        exact bne_iff_ne.mpr fun heq =>
          hfresh (List.mem_map.mpr ⟨entry, hentry, heq.symm⟩)
      have hskip := ih hrest (i + 1)
      rw [hnone] at hskip
      rw [if_pos rfl, beq_self_eq_true]
      have hbuilt :=
        (workbookLaws_ignoresReports.buildWorkbookNode node).bind fun _ => hskip
      rw [buildWorkbook?, bind_pure_unit] at hbuilt
      exact hbuilt
    -- the entry is only reported, which is the same as nothing
    · rw [if_neg (Ne.symm hkey), beq_eq_false_iff_ne.mpr hkey]
      exact (report_sameButReports _).bind fun _ => ih hrest (i + 1)

/-- Two requests whose workbooks are built by the same steps. -/
theorem buildRequest_sameButReports {a b : Json.Entries} (ha : a.Distinct) (hb : b.Distinct)
    (h : buildWorkbook? (a.get? Field.workbook) = buildWorkbook? (b.get? Field.workbook)) :
    SameButReports (buildRequest (.obj a)) (buildRequest (.obj b)) := by
  have hentries := buildEntries_sameButReports ha 0
  rw [h] at hentries
  -- behind the entries both look whether there are sheets
  refine (hentries.trans (buildEntries_sameButReports hb 0).symm).bind fun _ => ?_
  refine stepLaws_ignoresReports.look (fun _ _ _ => rfl) fun p => ?_
  split
  · exact stepLaws_ignoresReports.stop _
  · exact stepLaws_ignoresReports.pure _

end Build

/-- Requests that are built the same but for reports have the same outcome. -/
theorem outcome_of_sameButReports {v w : Json}
    (h : Build.SameButReports (Build.buildRequest v) (Build.buildRequest w)) :
    (buildWorkbook v).outcome = (buildWorkbook w).outcome := by
  have hends := h .empty #[] #[]
  unfold buildWorkbook
  generalize Build.buildRequest v ⟨.empty, #[]⟩ = x at hends
  generalize Build.buildRequest w ⟨.empty, #[]⟩ = y at hends
  cases hends with
  | ok | error => rfl

end Gridwork
