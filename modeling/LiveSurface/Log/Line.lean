import LiveSurface.Log.Context
import LiveSurface.Log.Event
/-!
# Log lines

What is written for what is logged. A threshold decides which levels are written at all; a line names the
level and the logger and, as an object, holds the bound context, the fields of the record and its event.
-/
namespace LiveSurface

namespace Level

/-- The rank of a level. -/
def rank : Level → Nat
  | .debug => 10
  | .info => 20
  | .warning => 30
  | .error => 40
  | .critical => 50

/-- The name of a level on a line. -/
def label : Level → String
  | .debug => "DEBUG"
  | .info => "INFO"
  | .warning => "WARNING"
  | .error => "ERROR"
  | .critical => "CRITICAL"

/-- All levels. -/
def all : List Level := [.debug, .info, .warning, .error, .critical]

/-- The other names under which events are logged at a level. -/
def aliases : List (String × Level) :=
  [("warn", .warning), ("fatal", .critical), ("msg", .info), ("exception", .error)]

/-- The level with a name. -/
def ofWord? (word : String) : Option Level :=
  all.find? (fun l => l.word = word) <|> Entries.get? aliases word

end Level

/-- What is logged. The logger without a name is the root of all loggers. -/
structure LogRecord where
  logger : String
  level : Level
  event : String
  fields : List (String × Json)
deriving Repr

/-- What is written. -/
structure LogLine where
  label : String
  logger : String
  /-- The record as an object, if lines are written so. -/
  entry : Option Json
deriving Repr

/-- The name of a logger on a line. -/
def LogRecord.loggerLabel (r : LogRecord) : String := if r.logger = "" then "root" else r.logger

/-- Which lines are written, and how. -/
structure LogSetup where
  threshold : Nat
  asJson : Bool
deriving Repr

/-- What was given as a level is the name of a layout of lines. -/
structure NotALevel where
  layout : String
deriving DecidableEq, Repr

/-- The text of the refusal. -/
def NotALevel.message (e : NotALevel) : String := "Unknown level: '" ++ e.layout ++ "'"

namespace LogSetup

/-- The upper-case form of a character of a level's name: besides `a` to `z`, the dotless i and the long s
have one among `A` to `Z`. -/
def upperChar (c : Char) : Char :=
  if c = 'ı' then 'I' else if c = 'ſ' then 'S' else c.toUpper

/-- The names of thresholds. -/
def thresholds : List (String × Nat) :=
  [("DEBUG", 10), ("INFO", 20), ("WARNING", 30), ("WARN", 30), ("ERROR", 40), ("CRITICAL", 50),
   ("FATAL", 50), ("NOTSET", 0)]

/-- The layouts of lines that have a name among those of the thresholds. -/
def layouts : List (String × String) := [("BASIC_FORMAT", "%(levelname)s:%(name)s:%(message)s")]

/-- The threshold with a name, whose case does not count; that of `INFO` if there is none. The name of a layout
is refused. -/
def thresholdOf (name : String) : Except NotALevel Nat :=
  let upper := String.ofList (name.toList.map upperChar)
  match Entries.get? layouts upper with
  | some layout => .error ⟨layout⟩
  | none => .ok ((Entries.get? thresholds upper).getD Level.info.rank)

/-- The setup with the name of a level. -/
def ofName (level : String) (asJson : Bool) : Except NotALevel LogSetup :=
  (thresholdOf level).map fun threshold => ⟨threshold, asJson⟩

/-- The names that are no part of an entry: they ask for an error or a stack to be added, and none is at hand,
or they would hold the time. -/
def hidden : List String := ["timestamp", "exc_info", "stack_info"]

/-- A record as an object. Its fields come before the names of the context, and event, logger and level
before both. -/
def entry (bound : Entries String Json) (r : LogRecord) : Json :=
  .ofFields <| (hidden.foldl Entries.erase (bound.putAll r.fields)).putAll
    [("event", .str r.event), ("logger", .str r.loggerLabel), ("level", .str r.level.word)]

/-- The line for a record, if it is written. -/
def line? (setup : LogSetup) (bound : Entries String Json) (r : LogRecord) : Option LogLine :=
  if setup.threshold ≤ r.level.rank then
    some ⟨r.level.label, r.loggerLabel, if setup.asJson then some (entry bound r) else none⟩
  else none

/-- The lines for records. -/
def lines (setup : LogSetup) (bound : Entries String Json) (rs : List LogRecord) : List LogLine :=
  rs.filterMap (setup.line? bound)

end LogSetup

end LiveSurface
