import LiveSurface.Json.Writer
import LiveSurface.Text.Printable
/-!
# Displaying values as names

A value that stands where a name is expected is displayed: texts as they are, other values in a notation
close to how a program would spell them.
-/
namespace LiveSurface.Json

/-- Doubles in values that are displayed or shown. -/
def displayNumbers : NumberLayout := ⟨-4, 15, true, 2, "nan", "inf", "-inf"⟩

/-- A number in hexadecimal with at least `width` digits. -/
def hexDigits (width n : Nat) : List Char :=
  let digits := Nat.toDigits 16 n
  List.replicate (width - digits.length) '0' ++ digits

/-- A character between quotes of the given kind: the quote, the backslash and what is not printable are
escaped. -/
def displayChar (quoteMark c : Char) : List Char :=
  if c = quoteMark ∨ c = '\\' then ['\\', c]
  else if c = '\n' then ['\\', 'n']
  else if c = '\r' then ['\\', 'r']
  else if c = '\t' then ['\\', 't']
  else if Text.isPrintable c then [c]
  else if c.toNat < 0x100 then '\\' :: 'x' :: hexDigits 2 c.toNat
  else if c.toNat < 0x10000 then '\\' :: 'u' :: hexDigits 4 c.toNat
  else '\\' :: 'U' :: hexDigits 8 c.toNat

/-- A text in quotes: single ones, unless it has single ones and no double ones. -/
def displayText (s : String) : List Char :=
  let cs := s.toList
  let quoteMark := if '\'' ∈ cs ∧ '"' ∉ cs then '"' else '\''
  quoteMark :: (cs.flatMap (displayChar quoteMark) ++ [quoteMark])

mutual

/-- A value inside a displayed value. -/
def displayChars : Json → List Char
  | .null => "None".toList
  | .bool true => "True".toList
  | .bool false => "False".toList
  | .num n => numberChars displayNumbers n
  | .str s => displayText s
  | .arr [] => ['[', ']']
  | .arr (v :: rest) => '[' :: displayChars v ++ displayItems rest ++ [']']
  | .obj [] => ['\x7b', '\x7d']
  | .obj ((k, v) :: rest) =>
    '\x7b' :: displayText k.text ++ [':', ' '] ++ displayChars v ++ displayFields rest ++ ['\x7d']

/-- The items after the first. -/
def displayItems : List Json → List Char
  | [] => []
  | v :: rest => ',' :: ' ' :: displayChars v ++ displayItems rest

/-- The fields after the first. -/
def displayFields : List (Key × Json) → List Char
  | [] => []
  | (k, v) :: rest => ',' :: ' ' :: displayText k.text ++ [':', ' '] ++ displayChars v ++ displayFields rest

end

/-- A value as a name: a text is its own name, and null has the empty one. -/
def display (v : Json) : Except LongNumeral String :=
  match v with
  | .str s => .ok s
  | .null => .ok ""
  | _ => if v.isWritable then .ok (String.ofList v.displayChars) else .error .integer

end LiveSurface.Json
