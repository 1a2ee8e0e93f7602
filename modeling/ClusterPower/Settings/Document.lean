import ClusterPower.Settings.Json
import ClusterPower.Text.Utf8
import ClusterPower.Toml.Document

/-!
Settings as a TOML document. Rules in the document take the place of the built-in
rules of the same names, and all others stay. Without a readable document the
built-in settings are in force; an unusable document is an error.
-/

namespace ClusterPower

inductive SettingsError where
  | malformed
  | noWorkers
deriving DecidableEq, Repr

namespace SettingsError

def message? : SettingsError → Option String
  | .malformed => none
  | .noWorkers => some "configuration error: ActionMaxWorkers must be greater than zero"

def messageAt? (path : String) (error : SettingsError) : Option String :=
  error.message?.map fun message => "configuration error: " ++ path ++ ": " ++ message

end SettingsError

namespace Dialect

def toml : Dialect := ⟨Toml.asName?, Toml.asRecord?⟩

end Dialect

namespace Settings

def completed (settings : Settings) : Settings :=
  { settings with rules := settings.rules.orElse ActionRule.builtInTable }

def ofDocument (text : String) : Except SettingsError Settings :=
  match (Toml.read? text).bind (Settings.ofJson? .toml) with
  | none => .error .malformed
  | some settings =>
    if settings.options.maxWorkers = 0 then .error .noWorkers else .ok settings.completed

def ofFile (content : Option Bytes) : Except SettingsError Settings :=
  match content.bind Text.strict? with
  | some text => ofDocument text
  | none => .ok {}

end Settings

end ClusterPower
