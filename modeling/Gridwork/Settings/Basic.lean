import Gridwork.Log.Level
import Gridwork.Settings.File
import Gridwork.Settings.Scalar
import Gridwork.Storage.Path
import Gridwork.Text.Case

/-!
# Settings

Each setting has a default and can be set by an environment variable or a line of a settings file;
the environment wins. Names of variables are compared without regard to case.

`Settings.load` reads all settings. If some cannot be read, all of them are reported, in the order
of their declaration.
-/

namespace Gridwork

/-- Where the program runs. -/
inductive Environment where
  | development
  | staging
  | production
  deriving DecidableEq, Repr

namespace Environment

/-- The name of an environment. -/
def name : Environment → String
  | .development => "development"
  | .staging => "staging"
  | .production => "production"

/-- All environments. -/
def all : List Environment := [.development, .staging, .production]

/-- The environment of a given name. -/
def ofName? (s : String) : Option Environment := all.find? (·.name == s)

end Environment

/-- The settings that can be given, in the order of their declaration. -/
inductive Setting where
  | host
  | port
  | environment
  | logLevel
  | generateRateLimit
  | persistGenerated
  | templatesDir
  | scanBusinessData
  | maxRowsPerSheet
  deriving DecidableEq, Repr

namespace Setting

/-- The name of a setting. -/
def name : Setting → String
  | .host => "host"
  | .port => "port"
  | .environment => "environment"
  | .logLevel => "log_level"
  | .generateRateLimit => "generate_rate_limit"
  | .persistGenerated => "persist_generated"
  | .templatesDir => "templates_dir"
  | .scanBusinessData => "scan_business_data"
  | .maxRowsPerSheet => "max_rows_per_sheet"

/-- All settings. -/
def all : List Setting :=
  [.host, .port, .environment, .logLevel, .generateRateLimit, .persistGenerated, .templatesDir,
    .scanBusinessData, .maxRowsPerSheet]

/-- What the names of all variables begin with. -/
def variablePrefix := "sheetfactory_"

/-- The name of the variable of a setting, in lower case. -/
def variableName (s : Setting) : String := variablePrefix ++ s.name

end Setting

/-- Why a setting cannot be read. -/
inductive SettingFault where
  | notInteger
  | integerTooLong
  | notBoolean
  | portOutOfRange
  | unknownEnvironment
  | unknownLogLevel
  | boundNotPositive
  deriving DecidableEq, Repr

namespace SettingFault

/-- The kind of a fault. -/
def code : SettingFault → String
  | .notInteger => "int_parsing"
  | .integerTooLong => "int_parsing_size"
  | .notBoolean => "bool_parsing"
  | .portOutOfRange | .unknownEnvironment | .unknownLogLevel | .boundNotPositive => "value_error"

/-- The wording of a fault. -/
def message : SettingFault → String
  | .notInteger => "Input should be a valid integer, unable to parse string as an integer"
  | .integerTooLong => "Unable to parse input string as an integer, exceeded maximum size"
  | .notBoolean => "Input should be a valid boolean, unable to interpret input"
  | .portOutOfRange => "Value error, port must be between 1 and 65535"
  | .unknownEnvironment => "Value error, environment must be one of"
  | .unknownLogLevel => "Value error, log_level must be one of"
  | .boundNotPositive => "Value error, max_rows_per_sheet must be a positive integer"

end SettingFault

/-- A setting that cannot be read. -/
structure SettingError where
  setting : Setting
  fault : SettingFault
  deriving DecidableEq, Repr

/-- All settings. -/
structure Settings where
  host : String
  port : Int
  environment : Environment
  logLevel : Log.Level
  generateRateLimit : String
  persistGenerated : Bool
  templatesDir : Path
  scanBusinessData : Bool
  maxRowsPerSheet : Option Int
  deriving DecidableEq, Repr

namespace Settings

/-- The settings if none is given. -/
def defaults : Settings where
  host := "127.0.0.1"
  port := 8080
  environment := .development
  logLevel := .info
  generateRateLimit := "60/minute"
  persistGenerated := false
  templatesDir := .ofString "templates"
  scanBusinessData := false
  maxRowsPerSheet := none

/-- Whether the program runs in production. -/
def isProduction (s : Settings) : Bool := s.environment == .production

/-! ### Single values -/

/-- The levels that can be set. -/
def settableLevels : List Log.Level := [.debug, .info, .warning, .error, .critical]

/-- Reads a whole number. -/
def readInt (s : String) : Except SettingFault Int :=
  match Scalar.readInt s with
  | .ok n => .ok n
  | .error .notInteger => .error .notInteger
  | .error .tooLong => .error .integerTooLong

/-- Reads a truth value. -/
def readBool (s : String) : Except SettingFault Bool :=
  match Scalar.readBool? s with
  | some b => .ok b
  | none => .error .notBoolean

/-- Reads a port. -/
def readPort (s : String) : Except SettingFault Int :=
  match readInt s with
  | .ok n => if 1 ≤ n ∧ n ≤ 65535 then .ok n else .error .portOutOfRange
  | .error e => .error e

/-- Reads an environment. -/
def readEnvironment (s : String) : Except SettingFault Environment :=
  match Environment.ofName? s with
  | some e => .ok e
  | none => .error .unknownEnvironment

/-- Reads a log level in any case. -/
def readLogLevel (s : String) : Except SettingFault Log.Level :=
  match settableLevels.find? (·.name == Text.upper s) with
  | some level => .ok level
  | none => .error .unknownLogLevel

/-- Reads the largest number of rows of a sheet. -/
def readBound (s : String) : Except SettingFault (Option Int) :=
  match readInt s with
  | .ok n => if 1 ≤ n then .ok (some n) else .error .boundNotPositive
  | .error e => .error e

/-! ### Sources -/

/-- The value that a source gives to a setting, names being compared without regard to case; of
several names the last one counts. -/
def valueIn {α : Type} (source : List (String × α)) (setting : Setting) : Option α :=
  (source.reverse.find? fun entry => Text.lower entry.1 == setting.variableName).map (·.2)

/-- The value of a setting, from the environment or else from the settings file. -/
def valueOf (environment : List (String × String)) (file : SettingsFile.Entries)
    (setting : Setting) : Option String :=
  (valueIn environment setting).or (valueIn file setting).join

/-- Reads a setting, if it is given. -/
def readSetting {α : Type} (value : Setting → Option String) (setting : Setting) (default : α)
    (read : String → Except SettingFault α) : Except SettingError α :=
  match value setting with
  | none => .ok default
  | some s =>
    match read s with
    | .ok a => .ok a
    | .error fault => .error ⟨setting, fault⟩

/-- The error of a reading, if it failed. -/
def errorOf {α : Type} : Except SettingError α → List SettingError
  | .ok _ => []
  | .error e => [e]

/-- Reads all settings from the values that are given. -/
def ofValues (value : Setting → Option String) : Except (List SettingError) Settings :=
  let host := readSetting value .host defaults.host .ok
  let port := readSetting value .port defaults.port readPort
  let environment := readSetting value .environment defaults.environment readEnvironment
  let logLevel := readSetting value .logLevel defaults.logLevel readLogLevel
  let rateLimit := readSetting value .generateRateLimit defaults.generateRateLimit .ok
  let persist := readSetting value .persistGenerated defaults.persistGenerated readBool
  let directory :=
    readSetting value .templatesDir defaults.templatesDir fun s => .ok (Path.ofString s)
  let scan := readSetting value .scanBusinessData defaults.scanBusinessData readBool
  let bound := readSetting value .maxRowsPerSheet defaults.maxRowsPerSheet readBound
  match host, port, environment, logLevel, rateLimit, persist, directory, scan, bound with
  | .ok host, .ok port, .ok environment, .ok logLevel, .ok rateLimit, .ok persist, .ok directory,
    .ok scan, .ok bound =>
    .ok ⟨host, port, environment, logLevel, rateLimit, persist, directory, scan, bound⟩
  | host, port, environment, logLevel, rateLimit, persist, directory, scan, bound =>
    .error (errorOf host ++ errorOf port ++ errorOf environment ++ errorOf logLevel
      ++ errorOf rateLimit ++ errorOf persist ++ errorOf directory ++ errorOf scan ++ errorOf bound)

/-- Reads all settings from environment variables and the text of a settings file. -/
def load (environment : List (String × String)) (file : List Char) :
    Except (List SettingError) Settings :=
  ofValues (valueOf environment (SettingsFile.read environment file))

end Settings

end Gridwork
