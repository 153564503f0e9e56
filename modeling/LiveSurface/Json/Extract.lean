import LiveSurface.Json.Mend
/-!
# Values in prose

Texts that should be JSON often come in a code fence or with prose around them. `extract` strips the fence
and reads the whole text strictly; failing that, it cuts from the first opening to the last closing bracket
(or brace, if there are no brackets) and reads the cut leniently.
-/
namespace LiveSurface.Json

/-! ## Fences -/

/-- The fence around a block of code. -/
def fence : List Char := ['\x60', '\x60', '\x60']

/-- The fence with the name of the language. -/
def jsonFence : List Char := fence ++ ['j', 's', 'o', 'n']

/-- Drops `head` from the front of a text if it stands there. -/
def dropFront (head cs : List Char) : List Char :=
  if head.isPrefixOf cs then cs.drop head.length else cs

/-- Drops `tail` from the end of a text if it stands there. -/
def dropBack (tail cs : List Char) : List Char :=
  if tail.isSuffixOf cs then cs.take (cs.length - tail.length) else cs

/-- The text without the code fence and the blanks around it. -/
def stripFenceChars (cs : List Char) : List Char :=
  let inner := Text.stripChars cs
  let opened := if jsonFence.isPrefixOf inner then inner.drop jsonFence.length else dropFront fence inner
  Text.stripChars (dropBack fence opened)

/-- The text without the code fence and the blanks around it. -/
def stripFence (text : String) : String := String.ofList (stripFenceChars text.toList)

/-! ## Boundaries -/

/-- Where `part` first occurs in a text. -/
def firstIndex? (part : List Char) : List Char → Option Nat
  | [] => if part = [] then some 0 else none
  | c :: rest =>
    if part.isPrefixOf (c :: rest) then some 0 else (firstIndex? part rest).map (· + 1)

/-- Where `part` last occurs in a text. -/
def lastIndex? (part : List Char) : List Char → Option Nat
  | [] => if part = [] then some 0 else none
  | c :: rest =>
    match lastIndex? part rest with
    | some i => some (i + 1)
    | none => if part.isPrefixOf (c :: rest) then some 0 else none

/-- The bounds of the part from the first opener to the first character of the last closer. -/
def boundaries (opener closer cs : List Char) : Option (Nat × Nat) := do
  let first ← firstIndex? opener cs
  let last ← lastIndex? closer cs
  if last < first then none else some (first, last + 1)

/-- The part of a text between two bounds. -/
def slice (cs : List Char) (bounds : Nat × Nat) : List Char :=
  (cs.take bounds.2).drop bounds.1

/-- The outermost array of a text, or failing that its outermost object. -/
def cut? (cs : List Char) : Option (List Char) :=
  (boundaries ['['] [']'] cs <|> boundaries ['\x7b'] ['\x7d'] cs).map (slice cs)

/-! ## Extraction -/

/-- Why no value was found in a text. -/
inductive ExtractError
  | empty
  | absent
  | malformed (text : String) (fault : Fault) (position : Nat)
  /-- The cut nests too deep; `array` tells the kind of the last container, `mending` whether the cut was to be
  mended. -/
  | nested (array mending : Bool)
  /-- The whole text nests too deep to be read at all. -/
  | overflow
  | longNumeral (numeral : LongNumeral)
deriving DecidableEq, Repr

/-- Reads a cut leniently; one that is malformed is mended on demand. -/
def readCut (repair : Bool) (cs : List Char) : Except ExtractError Json :=
  match readChars .lenient cs with
  | .ok v => .ok v
  | .error (.longNumeral n) => .error (.longNumeral n)
  | .error (.tooDeep array) => .error (.nested array repair)
  | .error (.malformed fault position) =>
    let text := String.ofList cs
    if repair then .ok (mend text) else .error (.malformed text fault position)

/-- Reads a cut: strictly if it can be read so, else leniently. -/
def decodeCut (repair : Bool) (cs : List Char) : Except ExtractError Json :=
  match readChars .strict cs with
  | .ok v => .ok v
  | .error (.tooDeep _) => .error .overflow
  | .error _ => readCut repair cs

/-- The value in a text that has been stripped. -/
def extractChars (repair : Bool) (cs : List Char) : Except ExtractError Json :=
  if cs = [] then .error .empty
  else
    match readChars .strict cs with
    | .ok v => .ok v
    | .error (.tooDeep _) => .error .overflow
    | .error _ =>
      match cut? cs with
      | none => .error .absent
      | some part => decodeCut repair part

/-- The value in a text. -/
def extract (text : String) (repair : Bool) : Except ExtractError Json :=
  extractChars repair (stripFenceChars text.toList)

/-- The text of an error. -/
def ExtractError.message : ExtractError → String
  | .empty => "Empty JSON document"
  | .absent => "No JSON value found in text"
  | .malformed text fault position => "Invalid JSON: " ++ fault.message text position
  | .nested array mending =>
    (if mending then "JSON repair failed: " else "Invalid JSON: ") ++ tooDeepMessage array
  | .overflow => ""
  | .longNumeral n => n.message

/-! ## Size -/

/-- A text that is too large. -/
structure Oversize where
  name : String
  size : Nat
  max : Int
deriving DecidableEq, Repr

/-- The text of the refusal. -/
def Oversize.message (e : Oversize) : String :=
  e.name ++ " size " ++ toString e.size ++ " bytes exceeds maximum " ++ toString e.max ++ " bytes"

/-- Refuses a text of more octets than allowed. -/
def checkSize (size : Nat) (max : Int) (name : String) : Except Oversize Unit :=
  if max < size then .error ⟨name, size, max⟩ else .ok ()

end LiveSurface.Json
