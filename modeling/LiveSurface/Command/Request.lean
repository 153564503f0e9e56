import LiveSurface.Number.Spelled
/-!
# Requests on the command line

The command takes one argument, the batch, and two options: `--surface` (or `-s`) names the only surface to
draw, and `--indent` (or `-i`) the blanks per level of the output. An option's value follows it as the next
argument, after an equals sign behind the long name, or right behind the short name. The last value of an
option counts. After `--` there are no options.
-/
namespace LiveSurface

/-- What the command is asked to do. -/
structure Request where
  /-- The name of the batch's file, or `-` for standard input. -/
  batch : String
  surface : Option String := none
  indent : Nat := 0
deriving DecidableEq, Repr

/-- Why a command line cannot be understood. -/
inductive UsageError
  | unknownOption (argument : String)
  | missingValue (option : String)
  | badIndent (value : String)
  | missingBatch
  | extraArgument (argument : String)
  | unreadableBatch (name : String)
deriving DecidableEq, Repr

/-- The text of an error. -/
def UsageError.message : UsageError → String
  | .unknownOption argument => "no such option: " ++ argument
  | .missingValue option => "option " ++ option ++ " requires an argument"
  | .badIndent value => "not a valid indent: " ++ value
  | .missingBatch => "missing argument BATCH"
  | .extraArgument argument => "unexpected extra argument: " ++ argument
  | .unreadableBatch name => "cannot read " ++ name

namespace Request

/-- The options that take a value. -/
inductive Name
  | surface | indent
deriving DecidableEq, Repr

/-- The long form of an option. -/
def Name.long : Name → List Char
  | .surface => ['-', '-', 's', 'u', 'r', 'f', 'a', 'c', 'e']
  | .indent => ['-', '-', 'i', 'n', 'd', 'e', 'n', 't']

/-- The letter of an option's short form. -/
def Name.letter : Name → Char
  | .surface => 's'
  | .indent => 'i'

/-- The options. -/
def Name.all : List Name := [.surface, .indent]

/-- What an argument is by its form. -/
inductive Form
  /-- No option. -/
  | plain
  /-- The mark after which there are no options. -/
  | stop
  | help
  /-- An option with the value that is attached to it, if one is. -/
  | option (name : Name) (attached : Option (List Char))
  | unknown
deriving DecidableEq, Repr

/-- The value behind an equals sign. -/
def attachedValue? : List Char → Option (List Char)
  | '=' :: value => some value
  | _ => none

/-- The option whose long form an argument has. -/
def longForm? (cs : List Char) : Option Form :=
  let name := cs.takeWhile (· ≠ '=')
  (Name.all.find? fun n => n.long = name).map fun n => .option n (attachedValue? (cs.drop name.length))

/-- The option whose short form an argument begins with. -/
def shortForm? : List Char → Option Form
  | '-' :: letter :: value =>
    (Name.all.find? fun n => n.letter = letter).map fun n =>
      .option n (if value = [] then none else some value)
  | _ => none

/-- The form of an argument. -/
def form (cs : List Char) : Form :=
  match cs with
  | '-' :: _ :: _ =>
    if cs = ['-', '-'] then .stop
    else if cs = ['-', '-', 'h', 'e', 'l', 'p'] then .help
    else (longForm? cs <|> shortForm? cs).getD .unknown
  | _ => .plain

/-- The arguments sorted by what they are. -/
structure Arguments where
  help : Bool := false
  surface : Option String := none
  indent : Option String := none
  plain : List String := []

/-- Notes the value of an option, in place of one before. -/
def Arguments.put (a : Arguments) (name : Name) (value : String) : Arguments :=
  match name with
  | .surface => { a with surface := some value }
  | .indent => { a with indent := some value }

/-- Sorts arguments. -/
def collect (a : Arguments) : List String → Except UsageError Arguments
  | [] => .ok a
  | arg :: rest =>
    match form arg.toList with
    | .plain => collect { a with plain := a.plain ++ [arg] } rest
    | .stop => .ok { a with plain := a.plain ++ rest }
    | .help => collect { a with help := true } rest
    | .unknown => .error (.unknownOption arg)
    | .option name (some value) => collect (a.put name (String.ofList value)) rest
    | .option name none =>
      match rest with
      | [] => .error (.missingValue arg)
      | value :: rest => collect (a.put name value) rest

/-- The indent that an option asks for, zero if it is not given. -/
def indentOf : Option String → Except UsageError Nat
  | none => .ok 0
  | some text =>
    match Number.intOfText? text with
    | some n => if 0 ≤ n then .ok n.toNat else .error (.badIndent text)
    | none => .error (.badIndent text)

/-- The request that arguments make, or none if they ask for help. -/
def ofArguments (args : List String) : Except UsageError (Option Request) := do
  let a ← collect {} args
  if a.help then return none
  let indent ← indentOf a.indent
  match a.plain with
  | [] => .error .missingBatch
  | [batch] => .ok (some { batch := batch, surface := a.surface, indent := indent })
  | _ :: extra :: _ => .error (.extraArgument extra)

end Request

end LiveSurface
