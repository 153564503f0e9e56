import LiveSurface.Json.Nesting
import LiveSurface.Number.Layout
import LiveSurface.Number.Numeral
/-!
# Writing JSON

A `Style` records how a format separates items and writes numbers; `Json.write` is the one writer for all
of them. `Json.encode` picks the style: the fast compact one where it can write the value, the wide compact
one for integers past 64 bits and for deep values, the spaced one for indented text and for sorted text that
the fast one cannot write.
-/
namespace LiveSurface.Json

/-- How a format lays out values. -/
structure Style where
  /-- The number of blanks per level if items stand on lines of their own. -/
  indent : Option Nat
  /-- Whether a blank follows the comma of a text on one line. -/
  spacedComma : Bool
  /-- Whether a blank follows the colon. -/
  spacedColon : Bool
  numbers : NumberLayout
deriving Repr

/-- Compact text with null for non-finite numbers and signed exponents. -/
def Style.fast : Style where
  indent := none
  spacedComma := false
  spacedColon := false
  numbers := ⟨-5, 15, true, 1, "null", "null", "null"⟩

/-- Compact text with null for non-finite numbers and exponents without a plus sign. -/
def Style.wide : Style :=
  { Style.fast with numbers := { Style.fast.numbers with plus := false } }

/-- Doubles with at least two exponent digits and words for the non-finite ones. -/
def wordyNumbers : NumberLayout := ⟨-4, 15, true, 2, "NaN", "Infinity", "-Infinity"⟩

/-- Text with blanks after commas and colons, on one line or, with an indent, on many. -/
def Style.spaced (indent : Option Nat) : Style := ⟨indent, true, true, wordyNumbers⟩

/-- Compact text that keeps the non-finite numbers. -/
def Style.canonical : Style := ⟨none, false, false, wordyNumbers⟩

/-! ## Texts -/

/-- A digit of base sixteen. -/
def hexDigit (n : Nat) : Char := Nat.digitChar n

/-- The written form of a character: quote, backslash and control characters are escaped. -/
def escape (c : Char) : List Char :=
  if c = '"' then ['\\', '"']
  else if c = '\\' then ['\\', '\\']
  else if c = '\n' then ['\\', 'n']
  else if c = '\r' then ['\\', 'r']
  else if c = '\t' then ['\\', 't']
  else if c = '\x08' then ['\\', 'b']
  else if c = '\x0c' then ['\\', 'f']
  else if c.toNat < 0x20 then ['\\', 'u', '0', '0', hexDigit (c.toNat / 16), hexDigit (c.toNat % 16)]
  else [c]

/-- A text in quotes. -/
def quote (s : String) : List Char := '"' :: (s.toList.flatMap escape ++ ['"'])

/-! ## Values -/

/-- The digits of an integer. -/
def intChars (n : Int) : List Char :=
  if n < 0 then '-' :: Double.digitChars n.natAbs else Double.digitChars n.natAbs

/-- A number in a layout. -/
def numberChars (layout : NumberLayout) : Number → List Char
  | .int n => intChars n
  | .double x => (x.write layout).toList

/-- The start of a new line at a level, or nothing if all stands on one line. -/
def Style.lineBreak (style : Style) (level : Nat) : List Char :=
  match style.indent with
  | none => []
  | some width => '\n' :: List.replicate (width * level) ' '

/-- What stands between two items at a level. -/
def Style.comma (style : Style) (level : Nat) : List Char :=
  match style.indent with
  | none => if style.spacedComma then [',', ' '] else [',']
  | some _ => ',' :: style.lineBreak level

/-- What stands between a name and its value. -/
def Style.colon (style : Style) : List Char := if style.spacedColon then [':', ' '] else [':']

mutual

/-- The text of a value that stands at a level. -/
def write (style : Style) (level : Nat) : Json → List Char
  | .null => ['n', 'u', 'l', 'l']
  | .bool true => ['t', 'r', 'u', 'e']
  | .bool false => ['f', 'a', 'l', 's', 'e']
  | .num n => numberChars style.numbers n
  | .str s => quote s
  | .arr [] => ['[', ']']
  | .arr (v :: rest) =>
    '[' :: style.lineBreak (level + 1) ++ write style (level + 1) v ++ writeItems style (level + 1) rest
      ++ style.lineBreak level ++ [']']
  | .obj [] => ['{', '}']
  | .obj ((k, v) :: rest) =>
    '{' :: style.lineBreak (level + 1) ++ quote k.text ++ style.colon ++ write style (level + 1) v
      ++ writeFields style (level + 1) rest ++ style.lineBreak level ++ ['}']

/-- The items after the first. -/
def writeItems (style : Style) (level : Nat) : List Json → List Char
  | [] => []
  | v :: rest => style.comma level ++ write style level v ++ writeItems style level rest

/-- The fields after the first. -/
def writeFields (style : Style) (level : Nat) : List (Key × Json) → List Char
  | [] => []
  | (k, v) :: rest =>
    style.comma level ++ quote k.text ++ style.colon ++ write style level v
      ++ writeFields style level rest

end

/-- The text of a value in a style. -/
def text (style : Style) (v : Json) : String := String.ofList (write style 0 v)

/-- The compact text that tells values apart. -/
def canonical (v : Json) : String := v.text .canonical

/-! ## What can be written -/

mutual

/-- Whether a condition holds of every integer in a value. -/
def allInts (p : Int → Bool) : Json → Bool
  | .num (.int n) => p n
  | .arr items => allItemInts p items
  | .obj fields => allFieldInts p fields
  | .null | .bool _ | .num (.double _) | .str _ => true

/-- Whether a condition holds of every integer in the items. -/
def allItemInts (p : Int → Bool) : List Json → Bool
  | [] => true
  | v :: rest => allInts p v && allItemInts p rest

/-- Whether a condition holds of every integer in the fields' values. -/
def allFieldInts (p : Int → Bool) : List (Key × Json) → Bool
  | [] => true
  | (_, v) :: rest => allInts p v && allFieldInts p rest

end

/-- Whether every integer of a value is short enough to be written. -/
def isWritable (v : Json) : Bool := v.allInts isWritableInt

/-- The deepest nesting that the fast style writes. -/
def maxFastNesting : Nat := 254

/-- Whether the fast style writes a value: its integers fit into 64 bits, signed or unsigned, and it does not
nest too deep. -/
def isFast (v : Json) : Bool :=
  v.allInts (fun n => -(pow2 63 : Int) ≤ n && n < (pow2 64 : Int)) && v.nesting ≤ maxFastNesting

/-! ## Sorted keys -/

/-- The order of names: by code points. -/
def keyLe (a b : Key × Json) : Bool := decide (a.1.text ≤ b.1.text)

mutual

/-- The value with the fields of all its objects in the order of their names. -/
def sortKeys : Json → Json
  | .arr items => .arr (sortItems items)
  | .obj fields => .obj ((sortFields fields).mergeSort keyLe)
  | .null => .null
  | .bool b => .bool b
  | .num n => .num n
  | .str s => .str s

/-- The items, each with sorted keys. -/
def sortItems : List Json → List Json
  | [] => []
  | v :: rest => sortKeys v :: sortItems rest

/-- The fields in place, each value with sorted keys. -/
def sortFields : List (Key × Json) → List (Key × Json)
  | [] => []
  | (k, v) :: rest => (k, sortKeys v) :: sortFields rest

end

/-- The text of a value: compact for indent zero, on one line for a negative indent, on many lines for a
positive one; with the keys of objects sorted on demand. -/
def encode (v : Json) (indent : Int) (sorted : Bool) : Except LongNumeral String :=
  let ordered := if sorted then v.sortKeys else v
  if indent = 0 ∧ v.isFast then .ok (ordered.text .fast)
  else if !v.isWritable then .error .integer
  else if indent = 0 ∧ !sorted then .ok (ordered.text .wide)
  else .ok (ordered.text (.spaced (if 0 < indent then some indent.toNat else none)))

/-- The compact text of a value. -/
def compact (v : Json) : Except LongNumeral String := v.encode 0 false

end LiveSurface.Json
