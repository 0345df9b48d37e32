import Gridwork.Proofs.Settings.File
import Mathlib.Data.List.Nodup

/-!
# Settings in force

For every setting there is a value in force (`Settings.InForce`): that of the environment or else
that of the settings file, names being compared without regard to case; if neither gives one, the
default counts. Loading comes to one of two things (`Settings.Answers`). Either every setting holds
what its value stands for, and then all of them are in their ranges; or the settings whose values
are refused are reported, each once and in the order of their declaration.

That no faulty value gets past the others is seen setting by setting: whether one is reported
depends on its own value only (`Settings.map_errorOf_readSetting`).
-/

namespace Gridwork

namespace Settings

variable {α : Type} {environment : List (String × String)} {file : SettingsFile.Entries}
  {source : List (String × α)} {setting : Setting} {value : Setting → Option String} {text : String}

/-! ### Values in force -/

/-- No two names of a source differ in case only. -/
def DistinctNames (source : List (String × α)) : Prop :=
  (source.map fun entry => Text.lower entry.1).Nodup

/-- A source gives a value to a setting under its name in any case. -/
def Gives (source : List (String × α)) (setting : Setting) (v : α) : Prop :=
  ∃ name, (name, v) ∈ source ∧ Text.lower name = ("sheetfactory_" ++ setting.name : String)

/-- The value that is in force for a setting: that of the environment or else that of the settings
file; if neither gives one, the default counts. -/
inductive InForce (environment : List (String × String)) (file : SettingsFile.Entries)
    (setting : Setting) : Option String → Prop
  | environment {text : String} (h : Gives environment setting text) :
    InForce environment file setting (some text)
  | file {text : String} (h : ∀ t, ¬ Gives environment setting t)
    (hfile : Gives file setting (some text)) : InForce environment file setting (some text)
  | default (h : ∀ t, ¬ Gives environment setting t)
    (hfile : ∀ t, ¬ Gives file setting (some t)) : InForce environment file setting none

theorem valueIn_eq_some_iff (h : DistinctNames source) {v : α} :
    valueIn source setting = some v ↔ Gives source setting v := by
  unfold valueIn
  constructor
  · intro hvalue
    obtain ⟨entry, hentry, rfl⟩ := Option.map_eq_some_iff.mp hvalue
    have hname := List.find?_some hentry
    have hmem := List.mem_reverse.mp (List.mem_of_find?_eq_some hentry)
    exact ⟨entry.1, hmem, beq_iff_eq.mp hname⟩
  · rintro ⟨name, hmem, hname⟩
    have hmem' := List.mem_reverse.mpr hmem
    have hname : Text.lower name = setting.variableName := hname
    cases hfind : source.reverse.find? fun entry => Text.lower entry.1 == setting.variableName with
    | none => exact absurd (List.find?_eq_none.mp hfind _ hmem') (by simpa using hname)
    | some entry =>
      -- the entry that was found has the same name in lower case, so it is this one
      have hfound : Text.lower entry.1 = setting.variableName := by
        simpa using List.find?_some hfind
      have hentry := List.mem_reverse.mp (List.mem_of_find?_eq_some hfind)
      rw [List.inj_on_of_nodup_map h hentry hmem (hfound.trans hname.symm)]
      rfl

theorem valueIn_eq_none_iff (h : DistinctNames source) :
    valueIn source setting = none ↔ ∀ v, ¬ Gives source setting v := by
  simp only [← valueIn_eq_some_iff h]
  exact Option.eq_none_iff_forall_ne_some

/-- **The value that is read is the one in force.** -/
theorem inForce_valueOf (henv : DistinctNames environment) (hfile : DistinctNames file)
    (setting : Setting) : InForce environment file setting (valueOf environment file setting) := by
  unfold valueOf
  cases hvalue : valueIn environment setting with
  | some text => exact .environment ((valueIn_eq_some_iff henv).mp hvalue)
  | none =>
    have hnone := (valueIn_eq_none_iff henv).mp hvalue
    rw [Option.none_or]
    cases hgiven : (valueIn file setting).join with
    | some text =>
      exact .file hnone ((valueIn_eq_some_iff hfile).mp (Option.join_eq_some_iff.mp hgiven))
    | none =>
      refine .default hnone fun text h => ?_
      rw [← valueIn_eq_some_iff hfile] at h
      rw [h] at hgiven
      cases hgiven

end Settings

/-! ### Texts that a setting takes -/

/-- The texts that a setting does not take: they are not of its type, or out of its range. -/
def Setting.Refuses : Setting → String → Prop
  | .port, s => ¬ ∃ n, Scalar.readInt s = .ok n ∧ 1 ≤ n ∧ n ≤ 65535
  | .environment, s => s ∉ ["development", "staging", "production"]
  | .logLevel, s => Text.upper s ∉ (["DEBUG", "INFO", "WARNING", "ERROR", "CRITICAL"] : List Text)
  | .persistGenerated, s | .scanBusinessData, s => Scalar.readBool? s = none
  | .maxRowsPerSheet, s => ¬ ∃ n, Scalar.readInt s = .ok n ∧ 1 ≤ n
  | .host, _ | .generateRateLimit, _ | .templatesDir, _ => False

namespace Settings

/-- What holds of all settings that are read. -/
structure Valid (s : Settings) : Prop where
  port : 1 ≤ s.port ∧ s.port ≤ 65535
  environment : s.environment.name ∈ ["development", "staging", "production"]
  logLevel : s.logLevel.name ∈ ["DEBUG", "INFO", "WARNING", "ERROR", "CRITICAL"]
  maxRowsPerSheet : ∀ n ∈ s.maxRowsPerSheet, 1 ≤ n

/-- What a setting holds: what the text in force stands for or, without one, the default. -/
def Holding (text? : Option String) (default : α) (standsFor : String → α → Prop) (a : α) : Prop :=
  match text? with
  | some text => standsFor text a
  | none => a = default

/-- Settings that hold what the texts in force stand for. -/
structure Holds (value : Setting → Option String) (s : Settings) : Prop where
  host : Holding (value .host) "127.0.0.1" (fun text a => a = text) s.host
  port : Holding (value .port) 8080 (fun text n => Scalar.readInt text = .ok n) s.port
  environment :
    Holding (value .environment) .development (fun text e => e.name = text) s.environment
  logLevel :
    Holding (value .logLevel) .info (fun text level => level.name = Text.upper text) s.logLevel
  generateRateLimit :
    Holding (value .generateRateLimit) "60/minute" (fun text a => a = text) s.generateRateLimit
  persistGenerated : Holding (value .persistGenerated) false
    (fun text b => Scalar.readBool? text = some b) s.persistGenerated
  templatesDir : Holding (value .templatesDir) (Path.ofString "templates")
    (fun text p => p = Path.ofString text) s.templatesDir
  scanBusinessData : Holding (value .scanBusinessData) false
    (fun text b => Scalar.readBool? text = some b) s.scanBusinessData
  maxRowsPerSheet : Holding (value .maxRowsPerSheet) none
    (fun text bound => ∃ n, Scalar.readInt text = .ok n ∧ bound = some n) s.maxRowsPerSheet

/-- Errors that name the settings whose texts are refused, each once and in the order of their
declaration. -/
structure Reports (value : Setting → Option String) (errors : List SettingError) : Prop where
  ne_nil : errors ≠ []
  ordered : (errors.map (·.setting)).Sublist Setting.all
  mem_iff : ∀ setting, setting ∈ errors.map (·.setting) ↔
    ∃ text, value setting = some text ∧ setting.Refuses text

theorem readInt_eq_ok_iff {n : Int} : readInt text = .ok n ↔ Scalar.readInt text = .ok n := by
  unfold readInt
  cases h : Scalar.readInt text with
  | ok m => simp
  | error e => cases e <;> simp

theorem readBool_eq_ok_iff {b : Bool} : readBool text = .ok b ↔ Scalar.readBool? text = some b := by
  unfold readBool
  cases Scalar.readBool? text <;> simp

theorem readPort_eq_ok_iff {n : Int} :
    readPort text = .ok n ↔ Scalar.readInt text = .ok n ∧ 1 ≤ n ∧ n ≤ 65535 := by
  rw [← readInt_eq_ok_iff, readPort]
  cases readInt text with
  | error e => simp
  | ok m =>
    by_cases hm : 1 ≤ m ∧ m ≤ 65535
    · simp only [if_pos hm, Except.ok.injEq]
      exact ⟨fun h => ⟨h, h ▸ hm⟩, fun h => h.1⟩
    · simp only [if_neg hm, Except.ok.injEq, reduceCtorEq, false_iff, not_and]
      rintro rfl hlow hhigh
      exact hm ⟨hlow, hhigh⟩

theorem readBound_eq_ok_iff {bound : Option Int} :
    readBound text = .ok bound ↔ ∃ n, Scalar.readInt text = .ok n ∧ 1 ≤ n ∧ bound = some n := by
  simp only [← readInt_eq_ok_iff, readBound]
  cases readInt text with
  | error e => simp
  | ok m =>
    by_cases hm : 1 ≤ m
    · simp [hm, eq_comm]
    · simp [hm]

theorem readEnvironment_eq_ok_iff {e : Environment} :
    readEnvironment text = .ok e ↔ e.name = text := by
  unfold readEnvironment Environment.ofName?
  cases hfind : Environment.all.find? (·.name == text) with
  | none =>
    have hnone := List.find?_eq_none.mp hfind e (by cases e <;> decide)
    simpa using hnone
  | some found =>
    have hfound : found.name = text := by simpa using List.find?_some hfind
    subst hfound
    simp only [Except.ok.injEq]
    -- different environments have different names
    cases found <;> cases e <;> decide

theorem readLogLevel_eq_ok_iff {level : Log.Level} :
    readLogLevel text = .ok level ↔ level ∈ settableLevels ∧ level.name = Text.upper text := by
  unfold readLogLevel
  cases hfind : settableLevels.find? (·.name == Text.upper text) with
  | none =>
    simp only [reduceCtorEq, false_iff, not_and]
    intro hmem
    simpa using List.find?_eq_none.mp hfind level hmem
  | some found =>
    have hfound : found.name = Text.upper text := by simpa using List.find?_some hfind
    have hmem := List.mem_of_find?_eq_some hfind
    have hnames : (settableLevels.map (·.name)).Nodup := by decide
    rw [← hfound, Except.ok.injEq]
    constructor
    · rintro rfl
      exact ⟨hmem, rfl⟩
    · rintro ⟨hlevel, hname⟩
      exact List.inj_on_of_nodup_map hnames hmem hlevel (Text.ofString_inj.mp hname.symm)

/-! ### One setting after the other -/

/-- The text in force for a setting is refused. -/
def Refused (value : Setting → Option String) (setting : Setting) : Prop :=
  ∃ text, value setting = some text ∧ setting.Refuses text

theorem holding_of_readSetting {default a : α} {read : String → Except SettingFault α}
    {standsFor : String → α → Prop} (h : readSetting value setting default read = .ok a)
    (hread : ∀ text a, read text = .ok a → standsFor text a) :
    Holding (value setting) default standsFor a := by
  unfold readSetting at h
  unfold Holding
  cases hvalue : value setting with
  | none =>
    rw [hvalue] at h
    exact (Except.ok.inj h).symm
  | some text =>
    rw [hvalue] at h
    dsimp only at h ⊢
    cases htext : read text with
    | ok b =>
      rw [htext] at h
      obtain rfl := Except.ok.inj h
      exact hread text b htext
    | error fault =>
      rw [htext] at h
      cases h

/-- What holds of the default and of everything that can be read holds of a setting. -/
theorem of_readSetting {default a : α} {read : String → Except SettingFault α} {P : α → Prop}
    (h : readSetting value setting default read = .ok a) (hread : ∀ text a, read text = .ok a → P a)
    (hdefault : P default) : P a := by
  have hholding := holding_of_readSetting h hread
  unfold Holding at hholding
  split at hholding
  · exact hholding
  · rwa [hholding]

open Classical in
/-- A setting is reported exactly if its text is refused. -/
theorem map_errorOf_readSetting {default : α} {read : String → Except SettingFault α}
    (setting : Setting) (h : ∀ text, setting.Refuses text ↔ ∀ a, read text ≠ .ok a) :
    (errorOf (readSetting value setting default read)).map (·.setting)
      = if Refused value setting then [setting] else [] := by
  unfold readSetting Refused
  cases value setting with
  | none => simp [errorOf]
  | some text =>
    -- the text in force is the only one that counts
    have hrefused : (∃ t, some text = some t ∧ setting.Refuses t) ↔ ∀ a, read text ≠ .ok a := by
      simp [h]
    simp only [hrefused]
    cases hread : read text with
    | ok a => simp [errorOf]
    | error fault => simp [errorOf]

theorem errorOf_eq_nil_iff {r : Except SettingError α} : errorOf r = [] ↔ ∃ a, r = .ok a := by
  cases r <;> simp [errorOf]

/-- All errors, in the order of the declaration of the settings. -/
def errorsOf (value : Setting → Option String) : List SettingError :=
  errorOf (readSetting value .host defaults.host .ok)
    ++ errorOf (readSetting value .port defaults.port readPort)
    ++ errorOf (readSetting value .environment defaults.environment readEnvironment)
    ++ errorOf (readSetting value .logLevel defaults.logLevel readLogLevel)
    ++ errorOf (readSetting value .generateRateLimit defaults.generateRateLimit .ok)
    ++ errorOf (readSetting value .persistGenerated defaults.persistGenerated readBool)
    ++ errorOf (readSetting value .templatesDir defaults.templatesDir fun s =>
      .ok (Path.ofString s))
    ++ errorOf (readSetting value .scanBusinessData defaults.scanBusinessData readBool)
    ++ errorOf (readSetting value .maxRowsPerSheet defaults.maxRowsPerSheet readBound)

/-- Settings that have been read. -/
structure ReadFrom (value : Setting → Option String) (s : Settings) : Prop where
  host : readSetting value .host defaults.host .ok = .ok s.host
  port : readSetting value .port defaults.port readPort = .ok s.port
  environment :
    readSetting value .environment defaults.environment readEnvironment = .ok s.environment
  logLevel : readSetting value .logLevel defaults.logLevel readLogLevel = .ok s.logLevel
  generateRateLimit :
    readSetting value .generateRateLimit defaults.generateRateLimit .ok = .ok s.generateRateLimit
  persistGenerated :
    readSetting value .persistGenerated defaults.persistGenerated readBool = .ok s.persistGenerated
  templatesDir : (readSetting value .templatesDir defaults.templatesDir fun s =>
    .ok (Path.ofString s)) = .ok s.templatesDir
  scanBusinessData :
    readSetting value .scanBusinessData defaults.scanBusinessData readBool = .ok s.scanBusinessData
  maxRowsPerSheet :
    readSetting value .maxRowsPerSheet defaults.maxRowsPerSheet readBound = .ok s.maxRowsPerSheet

/-- Either all settings can be read, or there are errors. -/
theorem ofValues_cases (value : Setting → Option String) :
    (∃ s, ofValues value = .ok s ∧ ReadFrom value s) ∨
      (ofValues value = .error (errorsOf value) ∧ errorsOf value ≠ []) := by
  unfold ofValues errorsOf
  dsimp only
  split
  · next hhost hport henvironment hlevel hlimit hpersist hdirectory hscan hbound =>
    exact .inl ⟨_, rfl, hhost, hport, henvironment, hlevel, hlimit, hpersist, hdirectory, hscan,
      hbound⟩
  · next hnot =>
    -- without an error every setting has been read, which the first case takes up
    refine .inr ⟨rfl, fun hnil => ?_⟩
    simp only [List.append_eq_nil_iff, errorOf_eq_nil_iff, and_assoc] at hnil
    obtain ⟨⟨_, hhost⟩, ⟨_, hport⟩, ⟨_, henvironment⟩, ⟨_, hlevel⟩, ⟨_, hlimit⟩, ⟨_, hpersist⟩,
      ⟨_, hdirectory⟩, ⟨_, hscan⟩, _, hbound⟩ := hnil
    exact hnot _ _ _ _ _ _ _ _ _ hhost hport henvironment hlevel hlimit hpersist hdirectory hscan
      hbound

/-! ### Settings that are read -/

variable {s : Settings}

theorem ReadFrom.holds (h : ReadFrom value s) : s.Holds value where
  host := holding_of_readSetting h.host fun _ _ h => (Except.ok.inj h).symm
  port := holding_of_readSetting h.port fun _ _ h => (readPort_eq_ok_iff.mp h).1
  environment :=
    holding_of_readSetting h.environment fun _ _ h => readEnvironment_eq_ok_iff.mp h
  logLevel := holding_of_readSetting h.logLevel fun _ _ h => (readLogLevel_eq_ok_iff.mp h).2
  generateRateLimit :=
    holding_of_readSetting h.generateRateLimit fun _ _ h => (Except.ok.inj h).symm
  persistGenerated := holding_of_readSetting h.persistGenerated fun _ _ h => readBool_eq_ok_iff.mp h
  templatesDir := holding_of_readSetting h.templatesDir fun _ _ h => (Except.ok.inj h).symm
  scanBusinessData := holding_of_readSetting h.scanBusinessData fun _ _ h => readBool_eq_ok_iff.mp h
  maxRowsPerSheet := holding_of_readSetting h.maxRowsPerSheet fun _ _ h => by
    obtain ⟨n, hn, -, hbound⟩ := readBound_eq_ok_iff.mp h
    exact ⟨n, hn, hbound⟩

theorem ReadFrom.valid (h : ReadFrom value s) : s.Valid where
  port := of_readSetting (P := fun n => 1 ≤ n ∧ n ≤ 65535) h.port
    (fun _ _ h => (readPort_eq_ok_iff.mp h).2) (by decide)
  environment := by cases s.environment <;> decide
  logLevel := of_readSetting (P := fun level => level.name ∈ _) h.logLevel
    (fun _ _ h => List.mem_map_of_mem (f := (·.name)) (readLogLevel_eq_ok_iff.mp h).1) (by decide)
  maxRowsPerSheet := by
    refine of_readSetting (P := fun bound => ∀ n ∈ bound, 1 ≤ n) h.maxRowsPerSheet ?_
      (by simp [defaults])
    intro text bound hread n hn
    obtain ⟨m, -, hm, rfl⟩ := readBound_eq_ok_iff.mp hread
    rwa [← Option.some.inj hn]

/-! ### Settings that are refused -/

theorem refuses_port_iff : Setting.port.Refuses text ↔ ∀ n, readPort text ≠ .ok n := by
  simp only [Setting.Refuses, ne_eq, readPort_eq_ok_iff, not_exists]

theorem refuses_environment_iff :
    Setting.environment.Refuses text ↔ ∀ e, readEnvironment text ≠ .ok e := by
  have hnames : ["development", "staging", "production"] = Environment.all.map (·.name) := by decide
  have hall : ∀ e : Environment, e ∈ Environment.all := by
    intro e
    cases e <;> decide
  simp only [Setting.Refuses, ne_eq, readEnvironment_eq_ok_iff, hnames, List.mem_map, hall,
    true_and, not_exists]

theorem refuses_logLevel_iff :
    Setting.logLevel.Refuses text ↔ ∀ level, readLogLevel text ≠ .ok level := by
  have hnames : (["DEBUG", "INFO", "WARNING", "ERROR", "CRITICAL"] : List Text)
      = settableLevels.map fun level => .ofString level.name := by decide
  simp only [Setting.Refuses, ne_eq, readLogLevel_eq_ok_iff, hnames, List.mem_map, not_exists]

theorem readBool_refused_iff : Scalar.readBool? text = none ↔ ∀ b, readBool text ≠ .ok b := by
  simp only [ne_eq, readBool_eq_ok_iff]
  exact Option.eq_none_iff_forall_ne_some

theorem refuses_maxRowsPerSheet_iff :
    Setting.maxRowsPerSheet.Refuses text ↔ ∀ bound, readBound text ≠ .ok bound := by
  simp only [Setting.Refuses, ne_eq, readBound_eq_ok_iff, not_exists, not_and]
  constructor
  · rintro h bound n hn hpos rfl
    exact h n hn hpos
  · intro h n hn hpos
    exact h (some n) n hn hpos rfl

theorem filter_eq_flatMap {β : Type} (p : β → Bool) (bs : List β) :
    bs.filter p = bs.flatMap fun b => if p b = true then [b] else [] := by
  induction bs with
  | nil => rfl
  | cons b bs ih => rw [List.filter_cons, List.flatMap_cons, ih]; split <;> rfl

open Classical in
/-- **What is reported**: the settings whose texts are refused. -/
theorem map_errorsOf (value : Setting → Option String) :
    (errorsOf value).map (·.setting) = Setting.all.filter fun setting => Refused value setting := by
  simp only [errorsOf, List.map_append]
  rw [map_errorOf_readSetting .host (by simp [Setting.Refuses]),
    map_errorOf_readSetting .port fun _ => refuses_port_iff,
    map_errorOf_readSetting .environment fun _ => refuses_environment_iff,
    map_errorOf_readSetting .logLevel fun _ => refuses_logLevel_iff,
    map_errorOf_readSetting .generateRateLimit (by simp [Setting.Refuses]),
    map_errorOf_readSetting .persistGenerated fun _ => readBool_refused_iff,
    map_errorOf_readSetting .templatesDir (by simp [Setting.Refuses]),
    map_errorOf_readSetting .scanBusinessData fun _ => readBool_refused_iff,
    map_errorOf_readSetting .maxRowsPerSheet fun _ => refuses_maxRowsPerSheet_iff,
    filter_eq_flatMap]
  simp [Setting.all]

theorem reports_errorsOf (h : errorsOf value ≠ []) : Reports value (errorsOf value) := by
  classical
  have hsettings := map_errorsOf value
  refine ⟨h, hsettings ▸ List.filter_sublist, fun setting => ?_⟩
  have hall : setting ∈ Setting.all := by cases setting <;> decide
  rw [hsettings, List.mem_filter, decide_eq_true_eq]
  exact and_iff_right hall

/-! ### Loading -/

/-- What loading settings must come to, given the texts in force: settings that hold what these
stand for, or a report of those that are refused. -/
def Answers (value : Setting → Option String) : Except SettingsFailure Settings → Prop
  | .ok s => s.Valid ∧ s.Holds value
  | .error (.invalid errors) => Reports value errors
  | .error .fileNotText => False

theorem answers_ofValues (value : Setting → Option String) :
    Answers value ((ofValues value).mapError .invalid) := by
  rcases ofValues_cases value with ⟨s, hs, hread⟩ | ⟨herror, hne⟩
  · rw [hs]
    exact ⟨hread.valid, hread.holds⟩
  · rw [herror]
    exact reports_errorsOf hne

theorem ofContent_eq_load {file : Option FileContent} {cs : List Char}
    (h : file.elim (some []) FileContent.text? = some cs) (environment : List (String × String)) :
    ofContent environment file = (load environment cs).mapError .invalid := by
  cases file with
  | none =>
    obtain rfl := Option.some.inj h
    rfl
  | some content =>
    have htext : content.text? = some cs := h
    rw [ofContent, Option.map_some, htext]

/-- **What loading settings comes to**, for a settings file that is text. What it gives is what is
read from it, and if it is made of plain lines, what they state. -/
theorem ofContent_answers {environment : List (String × String)} {file : Option FileContent}
    {cs : List Char} (htext : file.elim (some []) FileContent.text? = some cs)
    (henvironment : DistinctNames environment)
    (hfile : DistinctNames (SettingsFile.read environment cs)) :
    (∃ value, (∀ setting, InForce environment (SettingsFile.read environment cs) setting
        (value setting)) ∧ Answers value (ofContent environment file)) ∧
      ∀ lines : List SettingsFile.Line,
        file = some (.octets (Text.Utf8.encode (SettingsFile.textOf lines))) →
        '\r' ∉ SettingsFile.textOf lines → (lines.map fun l => l.entry.1).Nodup →
          SettingsFile.read environment cs = lines.map SettingsFile.Line.entry := by
  refine ⟨⟨_, inForce_valueOf henvironment hfile, ?_⟩, ?_⟩
  · rw [ofContent_eq_load htext]
    exact answers_ofValues _
  · rintro lines rfl hreturn hnames
    obtain rfl := Option.some.inj ((SettingsFile.text?_encode hreturn).symm.trans htext)
    exact SettingsFile.read_textOf hnames environment

/-- A bare value. -/
def portLine : SettingsFile.Line where
  name := "SHEETFACTORY_PORT".toList
  spelling := "9000".toList
  value := "9000".toList
  name_ne := by decide
  name_chars := List.all_eq_true.mp (by decide)
  name_head := by simp
  spells := .bare (by rintro _ ⟨⟩; decide) (by rintro _ ⟨⟩; decide)
    (by simp [SettingsFile.isLineEnd]) (SettingsFile.not_infix_of_notMem (by decide))
  value_literal := by simp

/-- A value between quotes, where a hash begins no comment. -/
def environmentLine : SettingsFile.Line where
  name := "sheetfactory_environment".toList
  spelling := "'test # 1'".toList
  value := "test # 1".toList
  name_ne := by decide
  name_chars := List.all_eq_true.mp (by decide)
  name_head := by simp
  spells := show SettingsFile.Spells ('\'' :: ("test # 1".toList ++ ['\''])) _ from
    .quoted (.inl rfl) (by simp)
  value_literal := by simp

/-- A variable of the environment takes the place of a line of the file, and both settings are
reported. -/
theorem ofContent_answers_overridden :
    let environment := [("SheetFactory_Port", "0")]
    let lines := [portLine, environmentLine]
    let file := FileContent.octets (Text.Utf8.encode (SettingsFile.textOf lines))
    let entries := [("SHEETFACTORY_PORT", some "9000"),
      ("sheetfactory_environment", some "test # 1")]
    DistinctNames environment ∧ DistinctNames entries ∧
      SettingsFile.read environment (SettingsFile.textOf lines) = entries ∧
      ∃ value errors, (∀ setting, InForce environment entries setting (value setting)) ∧
        ofContent environment (some file) = .error (.invalid errors) ∧ Reports value errors ∧
          errors.map (·.setting) = [.port, .environment] := by
  intro environment lines file entries
  have htext : (some file).elim (some []) FileContent.text? = some (SettingsFile.textOf lines) :=
    SettingsFile.text?_encode (by decide)
  have hread : SettingsFile.read environment (SettingsFile.textOf lines) = entries :=
    SettingsFile.read_textOf (by decide) environment
  have henvironment : DistinctNames environment := by
    unfold DistinctNames
    decide
  have hentries : DistinctNames entries := by
    unfold DistinctNames
    decide
  have houtcome : ofContent environment (some file) = .error
      (.invalid [⟨.port, .portOutOfRange⟩, ⟨.environment, .unknownEnvironment⟩]) := by
    decide +kernel
  obtain ⟨⟨value, hvalue, hanswers⟩, hlines⟩ :=
    ofContent_answers htext henvironment (hread ▸ hentries)
  rw [hread] at hvalue
  rw [houtcome] at hanswers
  exact ⟨henvironment, hentries, hlines lines rfl (by decide) (by decide), value, _, hvalue,
    houtcome, hanswers, rfl⟩

end Settings

end Gridwork
