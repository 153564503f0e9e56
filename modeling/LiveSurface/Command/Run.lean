import LiveSurface.Command.Request
import LiveSurface.Json.Writer
import LiveSurface.Log.Line
import LiveSurface.Log.Logged
import LiveSurface.Render.Draw
import LiveSurface.Settings.Source
import LiveSurface.Surface.Update
/-!
# Running the command

The command applies a batch to an empty store and prints what the surfaces look like: one of them, or an
object of all in order of creation.
-/
namespace LiveSurface

/-- Why the command prints no tree. -/
inductive Refusal
  /-- It was asked for help. -/
  | help
  | usage (error : UsageError)
  | settings (faults : SettingsFaults)
  | logging (error : NotALevel)
  | unprocessable (fault : BatchFault)
  /-- Reading, drawing or printing broke off. -/
  | broken (error : BatchError)
deriving DecidableEq, Repr

/-- The status with which the command ends. -/
def Refusal.status : Refusal → Nat
  | .help => 0
  | .usage _ | .unprocessable _ => 2
  | .settings _ | .logging _ | .broken _ => 1

/-- The text of a refusal for the one who called the command. -/
def Refusal.message : Refusal → String
  | .help => "Usage: live-surface [-s SURFACE] [-i INDENT] BATCH\n"
  | .usage e => "usage: " ++ e.message ++ "\n"
  | .settings faults =>
    String.join (faults.map fun e => e.1.word ++ ": " ++ e.2.message ++ "\n")
  | .logging e => "broken off: " ++ e.message ++ "\n"
  | .unprocessable fault => "error: " ++ fault.message ++ "\n"
  | .broken (.longNumeral n) => "broken off: " ++ n.message ++ "\n"
  | .broken _ => "broken off\n"

namespace Command

/-- A long numeral breaks the command off. -/
def breakOff (n : LongNumeral) : Refusal := .broken (.longNumeral n)

/-- What the surfaces of a store look like, as a value. -/
def picture (settings : Settings) (store : Store) : Option String → Logged Refusal Json
  | some surface => do
    let node ← (store.draw settings surface).mapError breakOff
    pure (Json.ofOption Node.toJson node)
  | none => do
    let nodes ← (store.drawAll settings).mapError breakOff
    pure (.ofFields (nodes.map fun e => (e.1, Json.ofOption Node.toJson e.2)))

/-- An error of a batch as a refusal. -/
def ofBatchError : BatchError → Refusal
  | .unprocessable fault => .unprocessable fault
  | e => .broken e

/-- Applies a batch to an empty store. -/
def applied (settings : Settings) (text : String) : Logged Refusal Store := do
  let (store, outcome) := Store.empty.applyBatch settings (.text text)
  let _ ← outcome.mapError ofBatchError
  pure store

/-- The output for a request on the text of a batch. -/
def output (settings : Settings) (request : Request) (text : String) : Logged Refusal String := do
  let store ← applied settings (String.ofList (Text.unifyLines text.toList))
  let v ← picture settings store request.surface
  let written ← Logged.ofExcept ((v.encode request.indent false).mapError breakOff)
  pure (written ++ "\n")

/-- Runs the command: `read` gives the text of a batch by its name. -/
def run (args : List String) (read : String → Option String) (sources : SettingsSources) :
    Logged Refusal String := do
  let request ← Logged.ofExcept ((Request.ofArguments args).mapError .usage)
  match request with
  | none => Logged.fail .help
  | some request =>
    match read request.batch with
    | none => Logged.fail (.usage (.unreadableBatch request.batch))
    | some text => do
      let settings ← Logged.ofExcept ((Settings.load sources).mapError .settings)
      -- The level of the settings must be one that lines can be logged at.
      let _ ← Logged.ofExcept ((LogSetup.ofName settings.logLevel settings.jsonLogs).mapError .logging)
      output settings request text

end Command

end LiveSurface
