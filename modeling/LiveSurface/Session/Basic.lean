import LiveSurface.Log.Context
import LiveSurface.Render.Draw
import LiveSurface.Session.Prompt
import LiveSurface.Surface.Update
/-!
# Sessions

A session sends prompts to a source of batches and applies what comes back to its store. A prompt that is
refused never reaches the source. While a prompt is under way, the session and the batch are bound in the log
context; afterwards the context is as it was.
-/
namespace LiveSurface

/-- What a source makes of a prompt. -/
inductive Reply
  | batch (raw : RawBatch)
  | failed (text : String)
deriving Repr

/-- Why a prompt came to nothing. -/
inductive SendError
  | refused (fault : PromptFault)
  | tooLong (limit : Nat)
  | source (text : String)
  | batch (error : BatchError)
deriving DecidableEq, Repr

/-- A session. -/
structure Session where
  id : String
  settings : Settings
  store : Store := .empty
  context : LogContext := {}
  /-- The prompts that reached the source, in order. -/
  sent : List String := []
deriving Repr

namespace Session

/-- How much of a prompt is logged. -/
def loggedLength : Nat := 50

/-- The prompt that a value is, if it is not too long. -/
def accept (settings : Settings) (prompt : Json) : Logged SendError String :=
  match Prompt.ofJson prompt with
  | .error fault => do
    Logged.emit (.validation none)
    Logged.fail (.refused fault)
  | .ok text =>
    if settings.maxPromptLength < text.length then do
      Logged.emit (.validation (some text.length))
      Logged.fail (.tooLong settings.maxPromptLength)
    else pure text

/-- Applies a reply. -/
def receive (s : Session) : Reply → Session × Logged SendError BatchResult
  | .failed text => (s, Logged.fail (.source text))
  | .batch raw =>
    let (store, outcome) := s.store.applyBatch s.settings raw
    ({ s with store := store }, do
      let r ← outcome.mapError .batch
      Logged.emit (.batchReceived r.applied r.surfaces)
      pure r)

/-- The names that are bound while a prompt is under way. -/
def bindings (s : Session) (batchId : String) : Entries String Json :=
  [("session_id", .str s.id), ("batch_id", .str batchId)]

/-- Sends a prompt to a source and applies its reply. -/
def send (s : Session) (batchId : String) (prompt : Json) (source : String → Reply) :
    Session × Logged SendError BatchResult :=
  let accepted := accept s.settings prompt
  match accepted.result with
  | .error e => (s, ⟨accepted.events, .error e⟩)
  | .ok text =>
    let opened := { s with context := s.context.enter (s.bindings batchId), sent := s.sent ++ [text] }
    let (after, outcome) := opened.receive (source text)
    ({ after with context := after.context.leave }, do
      Logged.emit (.promptSent (String.ofList (text.toList.take loggedLength)))
      outcome)

/-- Draws a surface of the session. -/
def draw (s : Session) (surface : String) : Logged LongNumeral (Option Node) :=
  s.store.draw s.settings surface

/-- Draws all surfaces of the session in order of creation. -/
def drawAll (s : Session) : Logged LongNumeral (List (String × Option Node)) :=
  s.store.drawAll s.settings

end Session

/-- The text of an error of the prompt or the source; errors of the batch have texts of their own. -/
def SendError.message : SendError → String
  | .refused fault => "Invalid prompt: " ++ fault.message
  | .tooLong limit => "Prompt exceeds maximum length " ++ toString limit
  | .source text => text
  | .batch (.unprocessable fault) => fault.message
  | .batch (.longNumeral n) => n.message
  | .batch _ => ""

end LiveSurface
