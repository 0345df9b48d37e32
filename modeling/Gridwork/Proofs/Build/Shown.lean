import Gridwork.Proofs.Build.Faults
import Gridwork.Proofs.Service.Generation
import Gridwork.Proofs.Style.Shown

/-!
# What errors of building show

`BuildError.Shows T P` says that the texts that an error shows have the property `T` and that the
trees that it shows have the property `P`. A property that goes down the tree of a request
(`Json.Hereditary`) is one of all that is shown of it when it is built (`shows_of_built`) or
prepared (`Service.shows_of_prepare`): keys, names and values of the request, and places, which are
made of field names and numbers.

So an error has a wording if every whole number of the request can be written
(`BuildError.isWorded_of_shows`), and its wording and its field can be encoded if every text of the
request can (`BuildError.Shows.message`, `BuildError.Shows.field`).
-/

namespace Gridwork

variable {T : Text → Prop} {P : Json → Prop}

/-! ### Errors -/

namespace BuildError

/-- What an error shows has a property: `T` the texts, `P` the trees. -/
def Shows (T : Text → Prop) (P : Json → Prop) : BuildError → Prop
  | .style e => e.Shows T P
  | .requestNotObject => True
  | .workbookMissing => True
  | .notObject path => T path
  | .notArray path => T path
  | .notText path => T path
  | .workbookNameMissing path => T path
  | .noSheets path => T path
  | .emptyName path => T path
  | .badTitle name e path => T name ∧ T e.message ∧ T path
  | .noHeader name path => T name ∧ T path
  | .nullValue key => T key
  | .notFinite key _ => T key
  | .illegalText field => T field
  | .tooManyRows name _ _ => P name

variable {e : BuildError}

/-- The field is shown, if there is one. -/
theorem Shows.field (hP : Json.Hereditary T P) (h : e.Shows T P) {name : Text}
    (hname : e.field = some name) : T name := by
  have text : ∀ s : String, T s := hP.string
  cases e with
  | requestNotObject => cases hname
  | style s =>
    obtain rfl := Option.some.inj hname
    exact StyleError.Shows.field h
  | workbookMissing | tooManyRows =>
    obtain rfl := Option.some.inj hname
    exact text _
  | badTitle =>
    obtain rfl := Option.some.inj hname
    exact h.2.2
  | noHeader =>
    obtain rfl := Option.some.inj hname
    exact h.2
  | notObject | notArray | notText | workbookNameMissing | noSheets | emptyName | nullValue
  | notFinite | illegalText =>
    obtain rfl := Option.some.inj hname
    exact h

/-- The wording is made of what is shown. -/
theorem Shows.message (hP : Json.Hereditary T P) (h : e.Shows T P) {m : Text}
    (hm : e.message? = some m) : T m := by
  have text : ∀ s : String, T s := hP.string
  cases e with
  | style s => exact StyleError.Shows.message hP h hm
  | requestNotObject =>
    obtain rfl := Option.some.inj hm
    exact text _
  | workbookMissing =>
    obtain rfl := Option.some.inj hm
    exact hP.append (hP.append (text _) (text _)) (text _)
  | notObject | notArray | notText | workbookNameMissing | noSheets | emptyName | nullValue
  | illegalText =>
    obtain rfl := Option.some.inj hm
    exact hP.append (hP.append (text _) h) (text _)
  | badTitle =>
    obtain rfl := Option.some.inj hm
    exact hP.append (hP.append (hP.append (text _) h.1) (text _)) h.2.1
  | noHeader =>
    obtain rfl := Option.some.inj hm
    exact hP.append (hP.append (text _) h.1) (text _)
  | notFinite =>
    obtain rfl := Option.some.inj hm
    exact hP.append (hP.append (hP.append (text _) h) (text _)) (text _)
  | tooManyRows name rows limit =>
    obtain ⟨shown, hshown, rfl⟩ := Option.map_eq_some_iff.mp hm
    obtain ⟨-, rfl⟩ := Json.display?_eq_some_iff.mp hshown
    exact hP.append (hP.append (hP.append (hP.append (hP.append (text _) (hP.display h)) (text _))
      (text _)) (text _)) (text _)

/-- There is a wording unless a number is too long. -/
theorem isWorded_of_shows (h : e.Shows T (·.isWritable = true)) : e.isWorded = true := by
  cases e with
  | style s => exact StyleError.isWorded_of_shows h
  | tooManyRows name rows limit =>
    rw [isWorded, message?, Option.isSome_map, Json.isSome_display?]
    exact h
  | requestNotObject | workbookMissing | notObject | notArray | notText | workbookNameMissing
  | noSheets | emptyName | badTitle | noHeader | nullValue | notFinite | illegalText => rfl

end BuildError

namespace Title

variable {titles : List Text} {wanted : Text} {e : TitleError}

/-- With a title to be numbered it is the numbers that can be at fault. -/
theorem isEncodable_message_of_unique (h : unique titles wanted = .error e) :
    e.message.isEncodable = true := by
  have text := Text.isEncodable_ofString
  unfold unique at h
  split at h
  · split at h
    · cases h
    · split at h
      · obtain rfl := Except.error.inj h
        exact Text.isEncodable_append (Text.isEncodable_append (text _) (text _)) (text _)
      · dsimp only at h
        split at h
        · obtain rfl := Except.error.inj h
          exact Text.isEncodable_append (text _) (text _)
        · cases h
  · cases h

/-- What is shown of a name is a character that may not stand in a title. -/
theorem isEncodable_message (h : choose titles wanted = .error e) :
    e.message.isEncodable = true := by
  have text := Text.isEncodable_ofString
  unfold choose at h
  split at h
  · next c hc =>
    obtain rfl := Except.error.inj h
    have hinvalid : isInvalidChar c = true := List.find?_some hc
    refine Text.isEncodable_append (Text.isEncodable_append (text _) ?_) (text _)
    cases c with
    | char c => rfl
    | high | low => cases hinvalid
  · exact isEncodable_message_of_unique h

end Title

namespace Build

/-- The build errors of a step all show what has a property. -/
abbrev Shows {σ α : Type} (T : Text → Prop) (P : Json → Prop) (m : Build σ α) : Prop :=
  FailsWith (BuildError.Shows T P) m

variable (hP : Json.Hereditary T P) {path : Text} {node : Json}
include hP

theorem text_fieldPath (hpath : T path) (field : String) : T (fieldPath path field) :=
  hP.dot hpath (hP.string field)

/-! ### Reading -/

theorem shows_of_readStyleField {entries : Json.Entries} (hpath : T path) (h : P (.obj entries))
    {e : BuildError} (he : readStyleField path entries = .error e) : e.Shows T P := by
  unfold readStyleField at he
  split at he
  · cases he
  · next spec hspec =>
    split at he
    · cases he
    · next s hs =>
      obtain rfl := Except.error.inj he
      exact Style.shows_read hP (text_fieldPath hP hpath _) (hP.field? h hspec) s hs

theorem shows_of_readHeader (hpath : T path) (h : P node) {e : BuildError}
    (he : HeaderPlan.read path node = .error e) : e.Shows T P := by
  unfold HeaderPlan.read at he
  split at he
  · split at he
    · split at he
      · cases he
      · next hstyle =>
        obtain rfl := Except.error.inj he
        exact shows_of_readStyleField hP hpath h hstyle
    · exact Except.error.inj he ▸ text_fieldPath hP hpath _
  · exact Except.error.inj he ▸ hpath

theorem shows_of_readRow (hpath : T path) (h : P node) {e : BuildError}
    (he : RowPlan.read path node = .error e) : e.Shows T P := by
  unfold RowPlan.read at he
  split at he
  · split at he
    · cases he
    · next hstyle =>
      obtain rfl := Except.error.inj he
      exact shows_of_readStyleField hP hpath h hstyle
  · exact Except.error.inj he ▸ hpath

/-! ### Writing -/

theorem shows_writeHeader (hpath : T path) (h : P node) : Shows T P (writeHeader path node) := by
  have hlabel : ∀ i label row (style : Style),
      Shows T P (writeLabel row style (fieldPath path Field.columns) i label) := by
    intro i label row style
    have hplace : T (joinIndex (fieldPath path Field.columns) i) :=
      hP.joinIndex (text_fieldPath hP hpath _) i
    exact failsWith_writeLabel hplace hplace row style label
  exact (failsWith_ofExcept fun e he => shows_of_readHeader hP hpath h he).bind fun plan =>
    failsWith_reserveRow.bind fun row => failsWith_forEach (fun i label => hlabel _ _ _ _) 0 _

/-- The columns of a row are entries of it. -/
theorem shows_writeRow (hpath : T path) (h : P node) : Shows T P (writeRow path node) := by
  refine failsWith_bind_ofExcept (fun e he => shows_of_readRow hP hpath h he) fun plan hplan => ?_
  have hcolumn : ∀ column ∈ plan.columns, T column.1 := by
    intro column hc
    unfold RowPlan.read at hplan
    split at hplan
    · split at hplan
      · obtain rfl := Except.ok.inj hplan
        exact hP.key h (List.mem_filter.mp hc).1
      · cases hplan
    · cases hplan
  refine failsWith_reserveRow.bind fun row => failsWith_forEach_mem (fun i column hc => ?_) 0
  have hkey := hcolumn column hc
  exact failsWith_writeValue hkey (fun _ => hkey) hkey row _ _ column.2

theorem shows_writeSheet {plan : SheetPlan} (hpath : T path) (hname : T plan.name)
    (hheader : P plan.header) (hrows : P plan.rows) : Shows T P (writeSheet path plan) := by
  have hfield := text_fieldPath hP hpath
  have hheader' : Shows T P (writeSheetHeader path plan) := by
    unfold writeSheetHeader
    split
    · exact failsWith_stop ⟨hname, hfield _⟩
    · exact shows_writeHeader hP (hfield _) hheader
  have hrows' : Shows T P (writeSheetRows path plan) := by
    unfold writeSheetRows
    split
    · exact failsWith_pure _
    · next nodes hnodes =>
      rw [hnodes] at hrows
      exact failsWith_forEach_mem (fun i row hrow =>
        shows_writeRow hP (hP.joinIndex (hfield _) i) (hP.item hrows hrow)) 0
    · exact failsWith_stop (hfield _)
  exact hheader'.bind fun _ => hrows'.bind fun _ => failsWith_look fun _ => failsWith_report _

/-- What is read of a sheet is a part of it. -/
theorem shows_buildSheet (hpath : T path) (h : P node) : Shows T P (buildSheet path node) := by
  have hfield := text_fieldPath hP hpath
  refine failsWith_bind_ofExcept (fun e he => ?_) fun plan hplan => ?_
  · unfold SheetPlan.read at he
    split at he
    · split at he
      · split at he
        · exact Except.error.inj he ▸ hfield _
        · cases he
      · exact Except.error.inj he ▸ hfield _
    · exact Except.error.inj he ▸ hpath
  · obtain ⟨hname, hheader, hrows⟩ : T plan.name ∧ P plan.header ∧ P plan.rows := by
      unfold SheetPlan.read at hplan
      split at hplan
      · split at hplan
        · next name hname =>
          split at hplan
          · cases hplan
          · obtain rfl := Except.ok.inj hplan
            have hstr := hP.field h Field.name
            rw [hname] at hstr
            exact ⟨hP.str_iff.mp hstr, hP.field h _, hP.field h _⟩
        · cases hplan
      · cases hplan
    refine FailsWith.bind (failsWith_look fun p => ?_) fun title =>
      (failsWith_withNewSheet (shows_writeSheet hP hpath hname hheader hrows) _).bind fun _ =>
        failsWith_pure _
    split
    · exact failsWith_pure _
    · next he =>
      exact failsWith_stop ⟨hname, hP.of_isEncodable (Title.isEncodable_message he), hfield _⟩

theorem shows_buildWorkbookNode (h : P node) : Shows T P (buildWorkbookNode node) := by
  have hworkbook : T Field.workbook := hP.string _
  have hpath := text_fieldPath hP hworkbook
  unfold buildWorkbookNode readSheets
  split
  · next entries =>
    split
    · split
      · next first rest hsheets =>
        have hfield := hP.field h Field.sheets
        rw [hsheets] at hfield
        refine failsWith_forEach_mem (fun i sheet hsheet => ?_) 0
        exact (shows_buildSheet hP (hP.joinIndex (hpath _) i)
          (hP.item hfield hsheet)).bind fun _ => failsWith_pure _
      · exact failsWith_stop (hpath _)
    · exact failsWith_stop (hpath _)
  · exact failsWith_stop hworkbook

theorem shows_buildRequest {request : Json} (h : P request) :
    Shows T P (buildRequest request) := by
  cases request with
  | obj entries =>
    refine FailsWith.bind (failsWith_forEach_mem (fun _ entry hentry => ?_) 0) fun _ =>
      failsWith_look fun p => ?_
    · unfold buildEntry
      split
      · exact shows_buildWorkbookNode hP (hP.entry h hentry)
      · exact failsWith_report _
    · split
      · exact failsWith_stop trivial
      · exact failsWith_pure _
  | null | bool | int | float | str | arr => exact failsWith_stop trivial

end Build

/-! ### Requests -/

/-- **The errors of building show only parts of the request.** -/
theorem shows_of_built (hP : Json.Hereditary T P) {request : Json} (h : P request) {e : BuildError}
    (he : (buildWorkbook request).outcome = .error (.build e)) : e.Shows T P := by
  unfold buildWorkbook at he
  split at he
  · cases he
  · next hbuild =>
    obtain rfl := Except.error.inj he
    exact (Build.shows_buildRequest hP h).of_error hbuild

/-- They have a wording if every whole number can be written. -/
theorem worded_of_built {request : Json} (h : request.isWritable = true) {e : BuildError}
    (he : (buildWorkbook request).outcome = .error (.build e)) : e.isWorded = true :=
  BuildError.isWorded_of_shows (shows_of_built Json.hereditary_isWritable h he)

namespace Service

variable (hP : Json.Hereditary T P)
include hP

/-- A sheet with too many rows is reported by its name. -/
theorem shows_of_rowExcess {bound : Option Int} {request : Json} (h : P request)
    {e : BuildError} (he : rowExcess? bound request = some e) : e.Shows T P := by
  obtain ⟨limit, -, hfound⟩ := Option.bind_eq_some_iff.mp he
  obtain ⟨sheet, hsheet, hexcess⟩ := List.exists_of_findSome?_eq_some hfound
  -- the sheet is a part of the request
  have hpart : P sheet := by
    unfold sheetsOf at hsheet
    split at hsheet
    · split at hsheet
      · next hworkbook =>
        split at hsheet
        · next hsheets =>
          have hfield := hP.field (hP.get? h hworkbook) Field.sheets
          rw [hsheets] at hfield
          exact hP.item hfield hsheet
        · cases hsheet
      · cases hsheet
    · cases hsheet
  unfold excess? at hexcess
  split at hexcess
  · split at hexcess
    · split at hexcess
      · obtain rfl := Option.some.inj hexcess
        exact hP.field hpart _
      · cases hexcess
    · cases hexcess
  · cases hexcess

/-- **The errors of preparing a workbook show only parts of the request.** -/
theorem shows_of_prepare {settings : Settings} {request : Json} (h : P request) {e : BuildError}
    (he : (prepare settings request).outcome = .error (.failure (.build e))) : e.Shows T P := by
  have hcleaned := hP.sanitizeFormulas request h
  have hends := prepare_cases settings request
  rw [he] at hends
  cases hends with
  | excess _ hexcess => exact shows_of_rowExcess hP hcleaned hexcess
  | notBuilt _ _ hbuilt => exact shows_of_built hP hcleaned hbuilt

end Service

end Gridwork
