import LiveSurface.Json.Basic
import LiveSurface.Message.Kind
/-!
# Events

What the library reports while it works. An `Event` says what happened; its level, name and fields are
functions of it, so that a theorem can speak of events without their spelling.
-/
namespace LiveSurface

/-- How grave an event is. -/
inductive Level
  | debug | info | warning | error | critical
deriving DecidableEq, Repr

/-- The name of a level. -/
def Level.word : Level → String
  | .debug => "debug"
  | .info => "info"
  | .warning => "warning"
  | .error => "error"
  | .critical => "critical"

/-- Why a path cannot be written: the root is a scalar, or a segment leads nowhere. -/
inductive Obstacle
  | scalarRoot
  | segment (s : String)
deriving DecidableEq, Repr

/-- Why a component record is of no use. -/
inductive Useless
  | notAnObject
  | missingId
deriving DecidableEq, Repr

/-- The changes to a surface that can miss it. -/
inductive SurfaceChange
  | upsertComponents | setDataModel | removeDataModel
deriving DecidableEq, Repr

/-- Something worth reporting. -/
inductive Event
  | pathNotWritable (path : String) (obstacle : Obstacle)
  | componentSkipped (why : Useless)
  | componentDegraded (id type : String)
  | multipleMessageKinds (index : Int) (applied : MessageKind) (ignored : List MessageKind)
  | messageDropped (index : Int) (kind : MessageKind)
  | jsonParseFailed (reason : String)
  | invalidBatch (kind : Kind)
  | batchTooLong (count limit : Nat)
  | batchTooDeep (limit : Nat)
  | batchParsed (received parsed : Nat)
  | batchApplied (applied ignored : Nat) (surfaces : List String)
  | surfaceReset (surface : String)
  | unknownSurface (change : SurfaceChange) (surface : String)
  | unknownOp (op surface : String)
  | updateWithoutValue (surface : String)
  | renderUnknownSurface (surface : String)
  | renderNoRoot (surface : String)
  | renderCycle (surface component contextPath : String)
  | renderDepthExceeded (surface component : String) (limit : Nat)
  /-- A prompt was refused; the length is given if it was too long. -/
  | validation (length : Option Nat)
  | promptSent (message : String)
  | batchReceived (applied : Nat) (surfaces : List String)
deriving DecidableEq, Repr

namespace SurfaceChange

/-- The name of a change. -/
def word : SurfaceChange → String
  | .upsertComponents => "upsert_components"
  | .setDataModel => "set_data_model"
  | .removeDataModel => "remove_data_model"

end SurfaceChange

namespace Event

/-- The level of an event. -/
def level : Event → Level
  | .pathNotWritable .. | .componentSkipped _ | .componentDegraded .. | .multipleMessageKinds ..
  | .messageDropped .. | .renderCycle .. | .renderDepthExceeded .. => .warning
  | .jsonParseFailed _ | .invalidBatch _ | .batchTooLong .. | .batchTooDeep _ | .validation _ => .error
  | .batchApplied .. | .promptSent _ | .batchReceived .. => .info
  | .batchParsed .. | .surfaceReset _ | .unknownSurface .. | .unknownOp .. | .updateWithoutValue _
  | .renderUnknownSurface _ | .renderNoRoot _ => .debug

/-- The name of an event. -/
def name : Event → String
  | .pathNotWritable .. => "path_not_writable"
  | .componentSkipped _ => "component_skipped"
  | .componentDegraded .. => "component_degraded"
  | .multipleMessageKinds .. => "multiple_message_kinds"
  | .messageDropped .. => "message_dropped"
  | .jsonParseFailed _ => "json_parse_failed"
  | .invalidBatch _ => "invalid_batch"
  | .batchTooLong .. => "batch_too_long"
  | .batchTooDeep _ => "batch_too_deep"
  | .batchParsed .. => "batch_parsed"
  | .batchApplied .. => "batch_applied"
  | .surfaceReset _ => "surface_reset"
  | .unknownSurface .. => "unknown_surface"
  | .unknownOp .. => "unknown_op_treated_as_set"
  | .updateWithoutValue _ => "data_model_update_without_value"
  | .renderUnknownSurface _ => "render_unknown_surface"
  | .renderNoRoot _ => "render_no_root"
  | .renderCycle .. => "render_cycle"
  | .renderDepthExceeded .. => "render_depth_exceeded"
  | .validation _ => "validation"
  | .promptSent _ => "prompt_sent"
  | .batchReceived .. => "batch_received"

/-- The fields of an event in the order in which they are reported. -/
def fields : Event → List (String × Json)
  | .pathNotWritable path .scalarRoot => [("path", .str path), ("reason", .str "scalar_root")]
  | .pathNotWritable path (.segment s) => [("path", .str path), ("segment", .str s)]
  | .componentSkipped .notAnObject => [("reason", .str "not_an_object")]
  | .componentSkipped .missingId => [("reason", .str "missing_id")]
  | .componentDegraded id type => [("id", .str id), ("type", .str type)]
  | .multipleMessageKinds index applied ignored =>
    [("index", .ofInt index), ("applied", .str applied.word),
     ("ignored", .arr (ignored.map fun k => .str k.word))]
  | .messageDropped index kind =>
    [("index", .ofInt index), ("kind", .str kind.word), ("reason", .str "missing_surface_id")]
  | .jsonParseFailed reason => [("error", .str reason)]
  | .invalidBatch kind => [("type", .str kind.word)]
  | .batchTooLong count limit => [("count", .ofNat count), ("limit", .ofNat limit)]
  | .batchTooDeep limit => [("limit", .ofNat limit)]
  | .batchParsed received parsed => [("received", .ofNat received), ("parsed", .ofNat parsed)]
  | .batchApplied applied ignored surfaces =>
    [("applied", .ofNat applied), ("ignored", .ofNat ignored), ("surfaces", .arr (surfaces.map .str))]
  | .unknownSurface change surface => [("op", .str change.word), ("surface_id", .str surface)]
  | .unknownOp op surface => [("op", .str op), ("surface_id", .str surface)]
  | .surfaceReset surface | .updateWithoutValue surface | .renderUnknownSurface surface
  | .renderNoRoot surface => [("surface_id", .str surface)]
  | .renderCycle surface component contextPath =>
    [("surface_id", .str surface), ("component_id", .str component), ("context_path", .str contextPath)]
  | .renderDepthExceeded surface component limit =>
    [("surface_id", .str surface), ("component_id", .str component), ("limit", .ofNat limit)]
  | .validation none => []
  | .validation (some length) => [("length", .ofNat length)]
  | .promptSent message => [("message", .str message)]
  | .batchReceived applied surfaces =>
    [("applied", .ofNat applied), ("surfaces", .arr (surfaces.map .str))]

end Event

end LiveSurface
