import LiveSurface.Settings.EnvFile
import LiveSurface.Settings.Reading
import LiveSurface.Text.Lowercase
/-!
# Where settings come from

Settings are given by arguments, by variables of the environment and by an environment file, in this order
of rank; what none of them gives has its default. The case of names does not count, and names that belong to
no setting are passed over. Of names that differ in case only, the first counts among the arguments and the
last elsewhere.
-/
namespace LiveSurface

/-- The places where settings are looked for. -/
structure SettingsSources where
  arguments : Fields := []
  environment : Entries String String := []
  envFile : String := ""

/-- The settings could not be used: every setting at fault with the reason, in the order in which they are
checked. -/
abbrev SettingsFaults := List (SettingsField × SettingFault)

namespace SettingsSources

/-- The value of the first entry whose name is `wanted` in lower case. -/
def firstNamed? {α : Type} (wanted : String) (entries : List (String × α)) : Option α :=
  (entries.find? fun e => Text.lowercase e.1 = wanted).map Prod.snd

/-- The value of the last entry whose name is `wanted` in lower case. -/
def lastNamed? {α : Type} (wanted : String) (entries : List (String × α)) : Option α :=
  firstNamed? wanted entries.reverse

/-- The value that arguments give a setting. -/
def argument? (sources : SettingsSources) (f : SettingsField) : Option Json :=
  firstNamed? f.word (sources.arguments.map fun e => (e.1.text, e.2))

/-- The value that the environment gives a setting. -/
def fromEnvironment? (sources : SettingsSources) (f : SettingsField) : Option Json :=
  (lastNamed? f.variableName sources.environment).map .str

/-- The value that the environment file gives a setting. -/
def fromFile? (sources : SettingsSources) (f : SettingsField) : Option Json :=
  (lastNamed? f.variableName (EnvFile.read sources.environment sources.envFile)).join.map .str

/-- The value that is given for a setting: that of the highest rank. -/
def given? (sources : SettingsSources) (f : SettingsField) : Option Json :=
  sources.argument? f <|> sources.fromEnvironment? f <|> sources.fromFile? f

end SettingsSources

namespace Settings

/-- Reads one more setting, and notes why if it cannot be used. -/
def loadField (given? : SettingsField → Option Json) (loaded : Settings × SettingsFaults)
    (f : SettingsField) : Settings × SettingsFaults :=
  match given? f with
  | none => loaded
  | some v =>
    match loaded.1.set f v with
    | .ok s => (s, loaded.2)
    | .error fault => (loaded.1, loaded.2 ++ [(f, fault)])

/-- The settings that are given; all faults are reported. -/
def load (sources : SettingsSources) : Except SettingsFaults Settings :=
  let (settings, faults) := SettingsField.all.foldl (loadField sources.given?) ({}, [])
  if faults = [] then .ok settings else .error faults

end Settings

end LiveSurface
