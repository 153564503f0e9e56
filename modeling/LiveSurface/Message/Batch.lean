import LiveSurface.Json.Extract
import LiveSurface.Json.Nesting
import LiveSurface.Message.Basic
import LiveSurface.Settings.Basic
import LiveSurface.Text.Utf8
/-!
# Batches of messages

A batch arrives as text, as octets or as a value that was decoded before. It is parsed as a whole: one
invalid element spoils it, and the error names the first one.
-/
namespace LiveSurface

/-- A batch as it arrives. -/
inductive RawBatch
  | text (s : String)
  | octets (bytes : List UInt8)
  | decoded (v : Json)
deriving Repr

/-- Why a batch is unprocessable. -/
inductive BatchFault
  | oversize (size : Json.Oversize)
  | unreadable (reason : Json.ExtractError)
  | notAnArray (kind : Kind)
  | tooLong (count limit : Nat)
  | tooDeep (limit : Nat)
  | element (index : Int) (fault : ElementFault)
deriving DecidableEq, Repr

namespace BatchFault

/-- The text of a fault. -/
def message : BatchFault → String
  | .oversize size => "Invalid JSON: " ++ size.message
  | .unreadable reason => "Invalid JSON: " ++ reason.message
  | .notAnArray kind => "Message batch must be an array, got " ++ kind.word
  | .tooLong count limit =>
    "Message batch has " ++ toString count ++ " messages, maximum is " ++ toString limit
  | .tooDeep limit => "Message batch nesting exceeds maximum depth " ++ toString limit
  | .element index fault => fault.message index

/-- The index of the element at fault. -/
def index? : BatchFault → Option Int
  | .element index _ => some index
  | _ => none

end BatchFault

/-- Why a batch was not parsed: it is unprocessable, or it holds something that the parser breaks off at. -/
inductive BatchError
  | unprocessable (fault : BatchFault)
  /-- The text nests too deep to be read at all. -/
  | overflow
  | longNumeral (numeral : LongNumeral)
  /-- A component outside the catalog has a field whose name is no text. -/
  | brokenName
deriving DecidableEq, Repr

namespace Batch

/-- A fault that is reported before the batch is refused. -/
def refuse {α : Type} (event : Event) (fault : BatchFault) : Logged BatchError α := do
  Logged.emit event
  Logged.fail (.unprocessable fault)

/-- Decodes the text of a batch. -/
def decode (settings : Settings) (text : String) : Logged BatchError Json :=
  match Json.checkSize text.utf8ByteSize settings.maxBatchBytes "Message batch" with
  | .error size => refuse (.jsonParseFailed size.message) (.oversize size)
  | .ok () =>
    match Json.extract text false with
    | .ok v => pure v
    | .error .overflow => Logged.fail .overflow
    | .error (.longNumeral n) => Logged.fail (.longNumeral n)
    | .error reason => refuse (.jsonParseFailed reason.message) (.unreadable reason)

/-- The batch as a value. -/
def value (settings : Settings) : RawBatch → Logged BatchError Json
  | .text s => decode settings s
  | .octets bytes => decode settings (Text.Utf8.decode bytes)
  | .decoded (.str s) => decode settings s
  | .decoded v => pure v

/-- An error of an element as an error of its batch. -/
def ofElementError : ElementError → BatchError
  | .invalid index fault => .unprocessable (.element index fault)
  | .record (.longNumeral n) => .longNumeral n
  | .record .brokenName => .brokenName

/-- Parses elements, the first of which has an index, and leaves out the dropped ones. -/
def parseElements : Int → List Json → Logged BatchError (List Message)
  | _, [] => pure []
  | index, v :: rest => do
    let message? ← (Message.parse v index).mapError ofElementError
    let messages ← parseElements (index + 1) rest
    pure (message?.toList ++ messages)

/-- Parses a batch that has been decoded. -/
def parseValue (settings : Settings) (v : Json) : Logged BatchError (List Message) :=
  match v with
  | .arr elements =>
    if settings.maxMessages < elements.length then
      refuse (.batchTooLong elements.length settings.maxMessages)
        (.tooLong elements.length settings.maxMessages)
    else if v.exceedsDepth settings.maxJsonDepth 0 then
      refuse (.batchTooDeep settings.maxJsonDepth) (.tooDeep settings.maxJsonDepth)
    else do
      let messages ← parseElements 0 elements
      Logged.emit (.batchParsed elements.length messages.length)
      pure messages
  | _ => refuse (.invalidBatch v.kind) (.notAnArray v.kind)

/-- Parses a batch. -/
def parse (settings : Settings) (raw : RawBatch) : Logged BatchError (List Message) := do
  let v ← value settings raw
  parseValue settings v

end Batch

/-- Why a batch failed validation, for callers that want a value instead of an error. -/
structure BatchReport where
  message : String
  /-- The element at fault, as `[index]`. -/
  field : Option String
deriving DecidableEq, Repr

/-- The report on a fault. -/
def BatchFault.report (fault : BatchFault) : BatchReport where
  message := fault.message
  field := fault.index?.map fun i => "[" ++ toString i ++ "]"

/-- Parses a batch and reports a fault as a value; what is no fault of the batch stays an error. -/
def Batch.validate (settings : Settings) (raw : RawBatch) :
    Logged BatchError (Except BatchReport (List Message)) :=
  let parsed := Batch.parse settings raw
  match parsed.result with
  | .error (.unprocessable fault) => ⟨parsed.events, .ok (.error fault.report)⟩
  | .error e => ⟨parsed.events, .error e⟩
  | .ok messages => ⟨parsed.events, .ok (.ok messages)⟩

end LiveSurface
