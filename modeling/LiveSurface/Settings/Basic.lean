/-!
# Settings

The limits and defaults under which batches are parsed, applied and drawn.
-/
namespace LiveSurface

/-- The settings, with their defaults. Every limit is positive. -/
structure Settings where
  logLevel : String := "INFO"
  jsonLogs : Bool := false
  /-- The greatest size of a batch's text in octets. -/
  maxBatchBytes : Nat := 524288
  /-- The greatest nesting of a batch. -/
  maxJsonDepth : Nat := 32
  /-- The greatest number of elements in a batch. -/
  maxMessages : Nat := 1000
  /-- The greatest number of components that are drawn inside one another. -/
  maxRenderDepth : Nat := 64
  /-- The catalog of a surface that names none. -/
  defaultCatalogId : String := "a2ui.dev:standard:0.8"
  /-- The greatest length of a prompt in characters. -/
  maxPromptLength : Nat := 10000
deriving DecidableEq, Repr

end LiveSurface
