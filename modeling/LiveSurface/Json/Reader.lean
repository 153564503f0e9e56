import LiveSurface.Json.Basic
import LiveSurface.Number.Numeral
import LiveSurface.Text.DecimalDigit
/-!
# Reading JSON

The reader is a machine that takes one character after the other. Its state holds the containers that are
open around the reading position and what may come next. A text is read by feeding all its characters and
then closing the state, so what happens to a text depends on its prefixes alone.

Two dialects share the machine. The strict one is JSON as the standard has it. The lenient one also takes
`NaN`, `Infinity` and `-Infinity`, lets doubles overflow to infinity, and takes escapes of unpaired
surrogates.

A fault is reported at the position of the character that cannot follow, or where the broken token began.
-/
namespace LiveSurface.Json

/-- What a dialect of JSON admits. -/
structure Dialect where
  /-- Whether `NaN`, `Infinity` and `-Infinity` are values. -/
  specialNumbers : Bool
  /-- Whether a double may overflow to infinity. -/
  overflow : Bool
  /-- Whether an escape may name half of a surrogate pair. -/
  halfPairs : Bool
deriving DecidableEq, Repr

/-- JSON as the standard has it. -/
def Dialect.strict : Dialect := ⟨false, false, false⟩

/-- JSON with non-finite numbers and unpaired surrogates. -/
def Dialect.lenient : Dialect := ⟨true, true, true⟩

/-- How many containers may be open at once. -/
def maxOpen : Nat := 1000

/-- What is wrong at a position of a text. -/
inductive Fault
  | noValue | noComma | noColon | noName | extraData
  | badUnicodeEscape | badEscape | controlCharacter | unterminated
deriving DecidableEq, Repr

/-- Why a text is no value. -/
inductive ReadError
  | malformed (fault : Fault) (position : Nat)
  /-- Too many open containers; `array` tells the kind of the last one. -/
  | tooDeep (array : Bool)
  | longNumeral (numeral : LongNumeral)
deriving DecidableEq, Repr

/-- A container that waits for the value being read: the items before it, last first, or the fields
before it and its own name. -/
inductive Frame
  | items (before : List Json)
  | field (before : Fields) (name : Key)
deriving Repr

/-! ## Texts in quotes -/

/-- How far an escape has been read: nothing, the backslash, or some of the four hexadecimal digits. -/
inductive Escape
  | no
  | begun
  | hex (owed : Nat) (code : Nat)
deriving DecidableEq, Repr

/-- A text in quotes that is being read. -/
structure Quoted where
  /-- The position of the opening quote. -/
  opened : Nat
  /-- The characters so far, last first. -/
  chars : List Char := []
  intact : Bool := true
  /-- The first half of a surrogate pair whose second half may follow. -/
  half : Option Nat := none
  escape : Escape := .no
deriving Repr

namespace Quoted

/-- Adds a character. -/
def push (q : Quoted) (c : Char) : Quoted := { q with chars := c :: q.chars, escape := .no }

/-- Gives up the wait for the second half of a pair. -/
def settle (d : Dialect) (position : Nat) (q : Quoted) : Except ReadError Quoted :=
  match q.half with
  | none => .ok q
  | some _ =>
    if d.halfPairs then
      .ok { q with chars := '\uFFFD' :: q.chars, intact := false, half := none }
    else .error (.malformed .badUnicodeEscape position)

/-- Adds the character with the code of an escape. A code that is half of a surrogate pair waits for the
other half or completes the pair. -/
def pushCode (d : Dialect) (position : Nat) (q : Quoted) (code : Nat) : Except ReadError Quoted :=
  match q.half with
  | some high =>
    if 0xDC00 ≤ code ∧ code ≤ 0xDFFF then
      .ok (push { q with half := none }
        (Char.ofNat (0x10000 + (high - 0xD800) * 0x400 + (code - 0xDC00))))
    else do
      let q ← q.settle d position
      if 0xD800 ≤ code ∧ code ≤ 0xDBFF then .ok { q with half := some code, escape := .no }
      else .ok (q.push (Char.ofNat code))
  | none =>
    if 0xD800 ≤ code ∧ code ≤ 0xDBFF then .ok { q with half := some code, escape := .no }
    else if 0xDC00 ≤ code ∧ code ≤ 0xDFFF then
      settle d position { q with half := some code, escape := .no }
    else .ok (q.push (Char.ofNat code))

/-- The value of a hexadecimal digit. -/
def hexValue? (c : Char) : Option Nat :=
  let n := c.toNat
  if 48 ≤ n ∧ n ≤ 57 then some (n - 48)
  else if 97 ≤ n ∧ n ≤ 102 then some (n - 87)
  else if 65 ≤ n ∧ n ≤ 70 then some (n - 55)
  else none

/-- The character that a one-letter escape stands for. -/
def escaped? : Char → Option Char
  | '"' => some '"'
  | '\\' => some '\\'
  | '/' => some '/'
  | 'b' => some '\x08'
  | 'f' => some '\x0c'
  | 'n' => some '\n'
  | 'r' => some '\r'
  | 't' => some '\t'
  | _ => none

/-- What a character does to a text in quotes: it goes on, or the closing quote ends it. -/
inductive Progress
  | more (q : Quoted)
  | closed (q : Quoted)

/-- Takes one character. -/
def step (d : Dialect) (position : Nat) (q : Quoted) (c : Char) : Except ReadError Progress :=
  match q.escape with
  | .no =>
    if c = '\\' then .ok (.more { q with escape := .begun })
    else do
      let q ← q.settle d position
      if c = '"' then .ok (.closed q)
      else if c.toNat < 0x20 then .error (.malformed .controlCharacter position)
      else .ok (.more (q.push c))
  | .begun =>
    if c = 'u' then .ok (.more { q with escape := .hex 4 0 })
    else
      match escaped? c with
      | some e => do
        let q ← q.settle d position
        .ok (.more (q.push e))
      | none => .error (.malformed .badEscape (position - 1))
  | .hex owed code =>
    match hexValue? c with
    | none => .error (.malformed .badUnicodeEscape (position + owed - 5))
    | some v =>
      let code := code * 16 + v
      if 1 < owed then .ok (.more { q with escape := .hex (owed - 1) code })
      else .more <$> q.pushCode d position code

/-- The fault of a text that ends inside the quotes. -/
def endFault (position : Nat) (q : Quoted) : ReadError :=
  match q.escape with
  | .hex owed _ => .malformed .badUnicodeEscape (position + owed - 5)
  | _ => .malformed .unterminated q.opened

/-- The characters read. -/
def text (q : Quoted) : String := String.ofList q.chars.reverse

/-- The text read, as a name. -/
def name (q : Quoted) : Key := ⟨q.text, q.intact⟩

end Quoted

/-! ## Numbers -/

/-- The part of a number that is being read. -/
inductive Part
  /-- After the minus sign. -/
  | minus
  /-- After a leading zero, which no digit may follow. -/
  | zero
  | whole
  /-- After the decimal point, before any digit. -/
  | point
  | fraction
  /-- After the exponent's letter, or its sign, before any digit. -/
  | letter
  | sign
  | exponent
deriving DecidableEq, Repr

/-- A number that is being read. -/
structure Numeral where
  /-- The position where it began. -/
  began : Nat
  negative : Bool := false
  part : Part
  /-- The number that all digits before the exponent make up. -/
  digits : Nat := 0
  /-- How many digits stand before the point, and how many after it. -/
  wholeDigits : Nat := 0
  places : Nat := 0
  exponentNegative : Bool := false
  exponent : Nat := 0
  /-- The position of a point or exponent's letter that no digit has followed yet. -/
  unfinished : Nat := 0
deriving Repr

namespace Numeral

/-- A number that begins with a minus sign. -/
def ofMinus (position : Nat) : Numeral := { began := position, negative := true, part := .minus }

/-- The number with its first digit. -/
def firstDigit (n : Numeral) (v : Nat) : Numeral :=
  { n with part := if v = 0 then .zero else .whole, digits := v, wholeDigits := 1 }

/-- A number that begins with a digit. -/
def ofDigit (position v : Nat) : Numeral := firstDigit { began := position, part := .whole } v

/-- The number after one more character, if the character belongs to it. -/
def extend? (position : Nat) (n : Numeral) (c : Char) : Option Numeral :=
  match n.part, Text.asciiDigit? c with
  | .minus, some v => some (n.firstDigit v)
  | .whole, some v =>
    some { n with digits := n.digits * 10 + v, wholeDigits := n.wholeDigits + 1 }
  | .point, some v | .fraction, some v =>
    some { n with part := .fraction, digits := n.digits * 10 + v, places := n.places + 1 }
  | .letter, some v | .sign, some v | .exponent, some v =>
    some { n with part := .exponent, exponent := n.exponent * 10 + v }
  | .zero, some _ => none
  | part, none =>
    let mayHavePoint := part = .zero ∨ part = .whole
    if c = '.' ∧ mayHavePoint then some { n with part := .point, unfinished := position }
    else if (c = 'e' ∨ c = 'E') ∧ (mayHavePoint ∨ part = .fraction) then
      some { n with part := .letter, unfinished := position }
    else if (c = '+' ∨ c = '-') ∧ part = .letter then
      some { n with part := .sign, exponentNegative := c = '-' }
    else none

/-- The integer that the digits before the point make up. -/
def toInteger (n : Numeral) : Except ReadError Number :=
  if maxDigits < n.wholeDigits then .error (.longNumeral (.text n.wholeDigits))
  else .ok (.int (if n.negative then -(n.digits : Int) else n.digits))

/-- The double that digits and exponent make up. -/
def toDouble (d : Dialect) (n : Numeral) : Except ReadError Number :=
  let exponent : Int := if n.exponentNegative then -n.exponent else n.exponent
  let x := Double.ofDecimal n.negative n.digits (exponent - n.places)
  if x.isFinite || d.overflow then .ok (.double x) else .error (.malformed .noValue n.began)

/-- The number read, and where the first character stands that is not part of it, if that is not the
present position. -/
def close (d : Dialect) (n : Numeral) : Except ReadError (Number × Option Nat) :=
  match n.part with
  | .minus => .error (.malformed .noValue n.began)
  | .zero | .whole => (·, none) <$> n.toInteger
  | .point => (·, some n.unfinished) <$> n.toInteger
  | .letter | .sign =>
    if n.places = 0 then (·, some n.unfinished) <$> n.toInteger
    else (·, some n.unfinished) <$> toDouble d { n with exponent := 0 }
  | .fraction | .exponent => (·, none) <$> n.toDouble d

end Numeral

/-! ## The machine -/

/-- What the machine has read and what it awaits. -/
inductive State
  /-- A value must begin; `mayClose` right after the bracket of an array. -/
  | value (frames : List Frame) (mayClose : Bool)
  /-- A value has ended. -/
  | after (frames : List Frame) (v : Json)
  /-- The name of a field must begin; `mayClose` right after the brace of an object. -/
  | name (frames : List Frame) (fields : Fields) (mayClose : Bool)
  /-- A name has ended. -/
  | colon (frames : List Frame) (fields : Fields) (name : Key)
  /-- Inside a text that is a value. -/
  | text (frames : List Frame) (q : Quoted)
  /-- Inside the name of a field. -/
  | inName (frames : List Frame) (fields : Fields) (q : Quoted)
  | number (frames : List Frame) (n : Numeral)
  /-- Inside a word that began at a position: the letters still owed and its value. -/
  | word (frames : List Frame) (began : Nat) (owed : List Char) (v : Json)
deriving Repr

/-- Nothing has been read. -/
def State.start : State := .value [] false

/-- White space between tokens. -/
def isSpace (c : Char) : Bool := c = ' ' || c = '\t' || c = '\n' || c = '\r'

/-- What may not follow a value: at the top nothing may follow, in a container a comma is missing. -/
def faultAfter : List Frame → Fault
  | [] => .extraData
  | _ => .noComma

/-- The words, by first letter: the other letters and the value. -/
def word? (d : Dialect) : Char → Option (List Char × Json)
  | 't' => some (['r', 'u', 'e'], .bool true)
  | 'f' => some (['a', 'l', 's', 'e'], .bool false)
  | 'n' => some (['u', 'l', 'l'], .null)
  | 'N' => if d.specialNumbers then some (['a', 'N'], .num (.double .nan)) else none
  | 'I' =>
    if d.specialNumbers then
      some (['n', 'f', 'i', 'n', 'i', 't', 'y'], .num (.double (.infinite false)))
    else none
  | _ => none

/-- Opens a container if not too many are open. -/
def openContainer (frames : List Frame) (array : Bool) : Except ReadError State :=
  if maxOpen ≤ frames.length then .error (.tooDeep array)
  else if array then .ok (.value (.items [] :: frames) true)
  else .ok (.name frames [] true)

/-- Takes the first character of a value. -/
def beginValue (d : Dialect) (frames : List Frame) (position : Nat) (c : Char) :
    Except ReadError State :=
  if c = '"' then .ok (.text frames { opened := position })
  else if c = '[' then openContainer frames true
  else if c = '{' then openContainer frames false
  else if c = '-' then .ok (.number frames (.ofMinus position))
  else
    match Text.asciiDigit? c with
    | some v => .ok (.number frames (.ofDigit position v))
    | none =>
      match word? d c with
      | some (owed, v) => .ok (.word frames position owed v)
      | none => .error (.malformed .noValue position)

/-- Takes a character after the value `v`. -/
def stepAfter (frames : List Frame) (v : Json) (position : Nat) (c : Char) :
    Except ReadError State :=
  if isSpace c then .ok (.after frames v)
  else
    match frames with
    | .items before :: outer =>
      if c = ',' then .ok (.value (.items (v :: before) :: outer) false)
      else if c = ']' then .ok (.after outer (.arr (v :: before).reverse))
      else .error (.malformed .noComma position)
    | .field before key :: outer =>
      if c = ',' then .ok (.name outer (before.put key v) false)
      else if c = '}' then .ok (.after outer (.obj (before.put key v)))
      else .error (.malformed .noComma position)
    | [] => .error (.malformed .extraData position)

/-- Takes one character. -/
def step (d : Dialect) (position : Nat) (s : State) (c : Char) : Except ReadError State :=
  match s with
  | .value frames mayClose =>
    if isSpace c then .ok s
    else
      match frames, mayClose, c with
      | .items [] :: outer, true, ']' => .ok (.after outer (.arr []))
      | _, _, _ => beginValue d frames position c
  | .after frames v => stepAfter frames v position c
  | .name frames fields mayClose =>
    if isSpace c then .ok s
    else if c = '"' then .ok (.inName frames fields { opened := position })
    else if c = '}' ∧ mayClose then .ok (.after frames (.obj fields))
    else .error (.malformed .noName position)
  | .colon frames fields name =>
    if isSpace c then .ok s
    else if c = ':' then .ok (.value (.field fields name :: frames) false)
    else .error (.malformed .noColon position)
  | .text frames q => do
    match ← q.step d position c with
    | .more q => .ok (.text frames q)
    | .closed q => .ok (.after frames (.str q.text))
  | .inName frames fields q => do
    match ← q.step d position c with
    | .more q => .ok (.inName frames fields q)
    | .closed q => .ok (.colon frames fields q.name)
  | .number frames n =>
    if n.part = .minus ∧ c = 'I' ∧ d.specialNumbers then
      .ok (.word frames n.began ['n', 'f', 'i', 'n', 'i', 't', 'y'] (.num (.double (.infinite true))))
    else
      match n.extend? position c with
      | some n => .ok (.number frames n)
      | none => do
        match ← n.close d with
        | (x, none) => stepAfter frames (.num x) position c
        | (_, some unread) => .error (.malformed (faultAfter frames) unread)
  | .word frames began owed v =>
    match owed with
    | [] => stepAfter frames v position c
    | o :: rest => if c = o then .ok (.word frames began rest v) else .error (.malformed .noValue began)

/-- A character that neither is white space nor closes an array begins a value. -/
theorem step_value {d : Dialect} {frames : List Frame} {mayClose : Bool} {position : Nat} {c : Char}
    (hspace : isSpace c = false) (hclose : c ≠ ']') :
    step d position (.value frames mayClose) c = beginValue d frames position c := by
  simp only [step, hspace]
  split
  · next h => cases h
  · split
    · exact absurd rfl hclose
    · rfl

/-- Feeds characters to the machine, the first of them at a position. -/
def feed (d : Dialect) : Nat → State → List Char → Except ReadError State
  | _, s, [] => .ok s
  | position, s, c :: rest => do
    let s ← step d position s c
    feed d (position + 1) s rest

/-- The value read when the text ends at a position. -/
def close (d : Dialect) (position : Nat) : State → Except ReadError Json
  | .after [] v => .ok v
  | .after _ _ => .error (.malformed .noComma position)
  | .value _ _ => .error (.malformed .noValue position)
  | .name _ _ _ => .error (.malformed .noName position)
  | .colon _ _ _ => .error (.malformed .noColon position)
  | .text _ q => .error (q.endFault position)
  | .inName _ _ q => .error (q.endFault position)
  | .number frames n => do
    match ← n.close d with
    | (_, some unread) => .error (.malformed (faultAfter frames) unread)
    | (x, none) =>
      match frames with
      | [] => .ok (.num x)
      | _ => .error (.malformed .noComma position)
  | .word frames began owed v =>
    match owed, frames with
    | [], [] => .ok v
    | [], _ => .error (.malformed .noComma position)
    | _, _ => .error (.malformed .noValue began)

/-- Reads a list of characters as a value. -/
def readChars (d : Dialect) (cs : List Char) : Except ReadError Json := do
  let s ← feed d 0 .start cs
  close d cs.length s

/-- Reads a text as a value. -/
def read (d : Dialect) (text : String) : Except ReadError Json := readChars d text.toList

theorem feed_append (d : Dialect) (position : Nat) (s : State) (cs ds : List Char) :
    feed d position s (cs ++ ds) =
      (feed d position s cs >>= fun t => feed d (position + cs.length) t ds) := by
  induction cs generalizing position s with
  | nil => rfl
  | cons c rest ih =>
    simp only [List.cons_append, feed, List.length_cons]
    cases step d position s c with
    | error e => rfl
    | ok t =>
      have h : position + (rest.length + 1) = position + 1 + rest.length := by omega
      rw [h]
      exact ih (position + 1) t

/-! ## Fault texts -/

/-- The words for a fault. -/
def Fault.words : Fault → String
  | .noValue => "Expecting value"
  | .noComma => "Expecting ',' delimiter"
  | .noColon => "Expecting ':' delimiter"
  | .noName => "Expecting property name enclosed in double quotes"
  | .extraData => "Extra data"
  | .badUnicodeEscape => "Invalid \\uXXXX escape"
  | .badEscape => "Invalid \\escape"
  | .controlCharacter => "Invalid control character at"
  | .unterminated => "Unterminated string starting at"

/-- The line and the column of a position, both counted from one. -/
def lineAndColumn (cs : List Char) (position : Nat) : Nat × Nat :=
  let before := cs.take position
  (before.count '\n' + 1, (before.reverse.takeWhile (· ≠ '\n')).length + 1)

/-- A fault with its place. -/
def Fault.message (text : String) (fault : Fault) (position : Nat) : String :=
  let (line, column) := lineAndColumn text.toList position
  fault.words ++ ": line " ++ toString line ++ " column " ++ toString column ++
    " (char " ++ toString position ++ ")"

/-- The text of the refusal to open one more container. -/
def tooDeepMessage (array : Bool) : String :=
  "maximum recursion depth exceeded while decoding a JSON " ++ (if array then "array" else "object") ++
    " from a unicode string"

end LiveSurface.Json
