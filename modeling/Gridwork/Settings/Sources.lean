import Gridwork.Settings.Basic
import Gridwork.Storage.Content
import Gridwork.Storage.FileTree

/-!
# Where settings come from

Settings are read from the variables of the environment and from a settings file in the working
directory, which need not be there.
-/

namespace Gridwork

/-- Why there are no settings: some cannot be read, or the settings file is not text. -/
inductive SettingsFailure where
  | invalid (errors : List SettingError)
  | fileNotText
  deriving DecidableEq, Repr

namespace Settings

/-- The name of the settings file. -/
def fileName := ".env"

/-- Reads all settings, given the content of the settings file if there is one. -/
def ofContent (environment : List (String × String)) (file : Option FileContent) :
    Except SettingsFailure Settings :=
  match file.map FileContent.text? with
  | some none => .error .fileNotText
  | some (some text) => (load environment text).mapError .invalid
  | none => (load environment []).mapError .invalid

/-- Reads all settings, the settings file being one of the given files. -/
def ofFiles (environment : List (String × String)) (files : FileSystem FileContent) :
    Except SettingsFailure Settings :=
  ofContent environment (files.readFile fileName).toOption

end Settings

end Gridwork
