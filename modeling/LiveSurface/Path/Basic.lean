import LiveSurface.Number.Numeral
import LiveSurface.Text.DecimalDigit
/-!
# Paths

A path names a place in a tree of values by segments between slashes. Empty segments do not count, so that
`/a/b`, `a/b/` and `//a//b` are one path; the path without segments is the root.

A relative path is `.` or begins with `./`; it is resolved against the path of the enclosing template item.
-/
namespace LiveSurface.Path

/-- The pieces of a text between slashes, empty ones included. -/
def pieces : List Char → List (List Char)
  | [] => [[]]
  | c :: rest =>
    if c = '/' then [] :: pieces rest
    else
      match pieces rest with
      | [] => [[c]]
      | piece :: more => (c :: piece) :: more

/-- The segments of a path. -/
def segments (path : String) : List String :=
  ((pieces path.toList).filter (· ≠ [])).map String.ofList

/-- Whether a path is the root. -/
def isRoot (path : String) : Bool := (segments path).isEmpty

theorem isRoot_iff {path : String} : isRoot path = true ↔ segments path = [] := List.isEmpty_iff

/-- The text without the slashes at its end. -/
def dropSlashes (cs : List Char) : List Char := (cs.reverse.dropWhile (· = '/')).reverse

/-- The path of the entry `segment` of the container at `base`. -/
def join (base segment : String) : String :=
  String.ofList (dropSlashes base.toList ++ '/' :: segment.toList)

/-- The path that `path` means in the context of a template item: `.` is the item itself, `./` begins a path
inside it, and any other path starts from the root. -/
def resolve (path context : String) : String :=
  match path.toList with
  | ['.'] => if context = "" then "/" else context
  | '.' :: '/' :: rest => String.ofList (context.toList ++ '/' :: rest)
  | _ => path

/-- The index that a segment denotes: it must consist of the digits `0` to `9`, and of not too many. -/
def index? (segment : String) : Except LongNumeral (Option Nat) :=
  let cs := segment.toList
  if cs ≠ [] ∧ cs.all Text.isAsciiDigit then
    if maxDigits < cs.length then .error (.text cs.length) else .ok (some (Text.decimalValue cs))
  else .ok none

end LiveSurface.Path
