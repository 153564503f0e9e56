/-!
# The names of settings

Each setting has a name under which it is given; the order here is the one in which settings are checked.
-/
namespace LiveSurface

/-- One of the settings. -/
inductive SettingsField
  | logLevel | jsonLogs | maxBatchBytes | maxJsonDepth | maxMessages | maxRenderDepth
  | defaultCatalogId | maxPromptLength
deriving DecidableEq, Repr

namespace SettingsField

/-- All settings in the order in which they are checked. -/
def all : List SettingsField :=
  [.logLevel, .jsonLogs, .maxBatchBytes, .maxJsonDepth, .maxMessages, .maxRenderDepth,
   .defaultCatalogId, .maxPromptLength]

/-- The name of a setting. -/
def word : SettingsField → String
  | .logLevel => "log_level"
  | .jsonLogs => "json_logs"
  | .maxBatchBytes => "max_batch_bytes"
  | .maxJsonDepth => "max_json_depth"
  | .maxMessages => "max_messages"
  | .maxRenderDepth => "max_render_depth"
  | .defaultCatalogId => "default_catalog_id"
  | .maxPromptLength => "max_prompt_length"

/-- The name of the variable that gives a setting, in lower case. -/
def variableName (f : SettingsField) : String := "a2ui_" ++ f.word

theorem mem_all (f : SettingsField) : f ∈ all := by cases f <;> simp [all]

theorem nodup_all : all.Nodup := by decide

end SettingsField

end LiveSurface
