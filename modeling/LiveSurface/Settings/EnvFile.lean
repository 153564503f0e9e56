import LiveSurface.Entries
import LiveSurface.Text.Blank
/-!
# Environment files

An environment file gives variables values, one assignment a line: `NAME=value`, with an optional `export` in
front. A value may be quoted; a quoted value may go over several lines and hold escapes. Outside quotes, a
`#` after a blank begins a comment, also where the value would begin. A line that cannot be read is passed
over. `${NAME}` in a value stands for the value of a variable, `${NAME:-text}` for `text` if there is none. A
byte order mark at the very start is no part of the text.

Lines end with a line feed here; `Text.unifyLines` makes it so.
-/
namespace LiveSurface.EnvFile

/-- A variable and its value; `none` if the line has no equals sign. -/
structure Assignment where
  name : List Char
  value : Option (List Char)
deriving DecidableEq, Repr

/-! ## Reading -/

/-- Whether a character is a blank inside a line. -/
def isInlineBlank (c : Char) : Bool := Text.isBlank c && c ≠ '\n' && c ≠ '\r'

/-- Drops the blanks up to the end of the line. -/
def skipBlanks (cs : List Char) : List Char := cs.dropWhile isInlineBlank

/-- Drops the rest of a line with its end. -/
def skipLine : List Char → List Char
  | [] => []
  | c :: rest => if c = '\n' then rest else skipLine rest

/-- Drops the word `export` if a blank follows it. -/
def skipExport (cs : List Char) : List Char :=
  let word := ['e', 'x', 'p', 'o', 'r', 't']
  if word.isPrefixOf cs then
    match cs.drop word.length with
    | c :: rest => if isInlineBlank c then skipBlanks rest else cs
    | [] => cs
  else cs

/-- What stands before the closing quote, and what comes after it. A backslash and the character behind it
belong together, so that a quote behind a backslash does not close. -/
def untilQuote? (q : Char) : List Char → Option (List Char × List Char)
  | [] => none
  | '\\' :: c :: rest => (untilQuote? q rest).map fun r => ('\\' :: c :: r.1, r.2)
  | c :: rest => if c = q then some ([], rest) else (untilQuote? q rest).map fun r => (c :: r.1, r.2)

/-- The character for which an escape in double quotes stands. -/
def doubleEscape? (c : Char) : Option Char :=
  match c with
  | '\\' => some '\\'
  | '\'' => some '\''
  | '"' => some '"'
  | 'a' => some '\x07'
  | 'b' => some '\x08'
  | 'f' => some '\x0c'
  | 'n' => some '\n'
  | 'r' => some '\r'
  | 't' => some '\t'
  | 'v' => some '\x0b'
  | _ => none

/-- The character for which an escape in single quotes stands. -/
def singleEscape? (c : Char) : Option Char := if c = '\\' ∨ c = '\'' then some c else none

/-- Replaces escapes; a backslash that begins none stays. -/
def unescape (escape? : Char → Option Char) : List Char → List Char
  | [] => []
  | [c] => [c]
  | '\\' :: c :: rest =>
    match escape? c with
    | some d => d :: unescape escape? rest
    | none => '\\' :: unescape escape? (c :: rest)
  | c :: rest => c :: unescape escape? rest

/-- What stands before a comment; `afterBlank` tells whether a blank was just read. -/
def beforeComment (afterBlank : Bool) : List Char → List Char
  | [] => []
  | c :: rest => if c = '#' ∧ afterBlank then [] else c :: beforeComment (Text.isBlank c) rest

/-- Reads the value behind an equals sign and the blanks after it, and tells what comes after the value;
`none` if a quote is not closed. -/
def readValue? (afterBlank : Bool) : List Char → Option (List Char × List Char)
  | '\'' :: rest => (untilQuote? '\'' rest).map fun r => (unescape singleEscape? r.1, r.2)
  | '"' :: rest => (untilQuote? '"' rest).map fun r => (unescape doubleEscape? r.1, r.2)
  | cs =>
    let line := cs.takeWhile (· ≠ '\n')
    some (Text.stripChars (beforeComment afterBlank line), cs.drop line.length)

/-- Reads the name of a variable, which may stand in single quotes; a comment has an empty one. -/
def readName? : List Char → Option (List Char × List Char)
  | '#' :: rest => some ([], '#' :: rest)
  | '\'' :: rest =>
    let name := rest.takeWhile (· ≠ '\'')
    if name = [] then none
    else
      match rest.drop name.length with
      | '\'' :: after => some (name, after)
      | _ => none
  | cs =>
    let name := cs.takeWhile fun c => c ≠ '=' && c ≠ '#' && !Text.isBlank c
    if name = [] then none else some (name, cs.drop name.length)

/-- What comes after the end of a line, before which only blanks and a comment may stand. -/
def lineEnd? (cs : List Char) : Option (List Char) :=
  match skipBlanks cs with
  | [] => some []
  | '\n' :: rest => some rest
  | '#' :: rest => some (skipLine rest)
  | _ => none

/-- Reads the value after a name, if there is one; on failure it tells where reading stopped. -/
def readAssigned (cs : List Char) : Except (List Char) (Option (List Char) × List Char) :=
  match cs with
  | '=' :: rest =>
    let start := skipBlanks rest
    match readValue? (start.length < rest.length) start with
    | some (value, after) => .ok (some value, after)
    | none => .error start
  | _ => .ok (none, cs)

/-- Reads an assignment at the start of a line that is not blank, and tells what comes after it. -/
def readLine (cs : List Char) : Option Assignment × List Char :=
  let start := skipExport cs
  match readName? start with
  | none => (none, skipLine start)
  | some (name, rest) =>
    match readAssigned (skipBlanks rest) with
    | .error stop => (none, skipLine stop)
    | .ok (value, after) =>
      match lineEnd? after with
      | none => (none, skipLine after)
      | some next => (if name = [] then none else some ⟨name, value⟩, next)

/-- All assignments of a text in order. -/
def assignments (cs : List Char) : List Assignment :=
  match cs.dropWhile Text.isBlank with
  | [] => []
  | c :: rest =>
    let (first, next) := readLine (c :: rest)
    -- A line takes at least one character, so that what follows it is shorter.
    if next.length < cs.length then first.toList ++ assignments next else first.toList
termination_by cs.length

/-! ## Variables in values -/

/-- A reference to a variable: its name and the text that stands in for a missing one. -/
structure Reference where
  name : List Char
  default : List Char
deriving DecidableEq, Repr

/-- Reads a reference after its opening brace, and tells what comes after it. -/
def readReference? (cs : List Char) : Option (Reference × List Char) :=
  let name := cs.takeWhile fun c => c ≠ '\x7d' && c ≠ ':'
  match cs.drop name.length with
  | '\x7d' :: after => some (⟨name, []⟩, after)
  | ':' :: '-' :: rest =>
    let default := rest.takeWhile (· ≠ '\x7d')
    match rest.drop default.length with
    | '\x7d' :: after => some (⟨name, default⟩, after)
    | _ => none
  | _ => none

/-- A value with its references replaced. -/
def expand (lookup : String → Option (Option String)) (cs : List Char) : List Char :=
  match cs with
  | [] => []
  | '$' :: '\x7b' :: rest =>
    match readReference? rest with
    | some (r, after) =>
      let found := match lookup (String.ofList r.name) with
        | some (some s) => s.toList
        | some none => []
        | none => r.default
      -- What follows a reference is a part of the text behind its opening brace.
      if after.length ≤ rest.length then found ++ expand lookup after else found
    | none => '$' :: expand lookup ('\x7b' :: rest)
  | c :: rest => c :: expand lookup rest
termination_by cs.length

/-- Gives variables their values one after the other. A reference sees the variables before it, and then
those of the environment. -/
def resolve (environment : Entries String String) :
    Entries String (Option String) → List Assignment → Entries String (Option String)
  | known, [] => known
  | known, a :: rest =>
    let lookup (name : String) : Option (Option String) :=
      match known.get? name with
      | some value => some value
      | none => (environment.get? name).map some
    let value := a.value.map fun cs => String.ofList (expand lookup cs)
    resolve environment (known.put (String.ofList a.name) value) rest

/-- The text of a file without the byte order mark in front. -/
def dropMark : List Char → List Char
  | '\ufeff' :: rest => rest
  | cs => cs

/-- The variables that a file gives values to, in the order in which they first appear. -/
def read (environment : Entries String String) (text : String) : Entries String (Option String) :=
  resolve environment [] (assignments (Text.unifyLines (dropMark text.toList)))

end LiveSurface.EnvFile
