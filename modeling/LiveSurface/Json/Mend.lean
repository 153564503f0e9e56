import LiveSurface.Json.Mend.Phrase
import LiveSurface.Number.Spelled
/-!
# Mending JSON

`Json.mend` reads text that is almost JSON: with commas and colons too many or too few, quotes that are missing
or of another kind, words and numbers in other spellings, comments, and containers that are never closed. It
goes through the text once and takes what it can; what cannot begin a value is passed over.
-/
namespace LiveSurface.Json

namespace Mend

/-! ## Numbers -/

/-- The value that the characters of a number stand for; those that make up no number are a text. -/
def numberValue (cs : List Char) : Json :=
  let text := Json.str (String.ofList cs)
  let (negative, digits) := Number.splitSign cs
  if cs.contains ',' then text
  else if cs.contains '.' || cs.contains 'e' || cs.contains 'E' then
    match Number.parseDecimal? cs with
    | some x => .num (.double x)
    | none => text
  else if digits ≠ [] ∧ digits.all Text.isAsciiDigit ∧ digits.length ≤ maxDigits then
    let n : Int := Text.decimalValue digits
    .num (.int (if negative then -n else n))
  else text

/-- Reads a number. One that runs into a letter is a phrase, and a sign or a comma at its end is no part of it;
a comma inside makes it a text, except among the items of an array. -/
def Cursor.number (c : Cursor) : Json × Cursor :=
  let isPart (d : Char) : Bool :=
    Text.isAsciiDigit d || d = '-' || d = '.' || d = 'e' || d = 'E' || d = '/' || d = '_' ||
      (d = ',' && c.place? ≠ some .item)
  let taken := c.rest.takeWhile isPart
  let cs := taken.filter (· ≠ '_')
  let after := c.skip taken.length
  match cs.getLast? with
  | some d =>
    if d = '-' || d = 'e' || d = 'E' || d = '/' || d = ',' then (numberValue cs.dropLast, after.back 1)
    else if after.next?.any Text.isLetter then (after.back cs.length).phrase
    else (numberValue cs, after)
  | none => if after.next?.any Text.isLetter then after.phrase else (.str "", after)

/-! ## Containers -/

/-- Whether a value is an empty text or an empty container. -/
def isEmpty : Json → Bool
  | .str s => s = ""
  | .arr vs => vs.isEmpty
  | .obj fields => fields.isEmpty
  | _ => false

/-- The fields with more items in the array that is the last one's value, and those items in an array alone
count as well; `none` if the last value is no array or has no name. -/
def extendLast? (fields : Fields) : Option (List Json → Fields) :=
  match fields.getLast? with
  | some (name, .arr vs) =>
    if name.text = "" then none
    else some fun more =>
      let more := match more with
        | [.arr inner] => inner
        | _ => more
      fields.dropLast ++ [(name, .arr (vs ++ more))]
  | _ => none

mutual

/-- Reads the next value: the empty text if there is none. Outside containers there are only containers. -/
def value : Nat → Cursor → Json × Cursor
  | 0, c => (.str "", c)
  | fuel + 1, c =>
    match c.rest with
    | [] => (.str "", c)
    | d :: _ =>
      let inside := c.places ≠ []
      if d = '\x7b' then object fuel (c.skip 1)
      else if d = '[' then array fuel (c.skip 1)
      else if inside ∧ (isQuote d ∨ Text.isLetter d) then c.phrase
      else if inside ∧ (Text.isDigit d ∨ d = '-' ∨ d = '.') then c.number
      else if d = '#' ∨ d = '/' then
        if inside then (.str "", c.skipComment) else value fuel c.skipComment
      else value fuel (c.skip 1)

/-- Reads an array behind its opening bracket. -/
def array : Nat → Cursor → Json × Cursor
  | 0, c => (.arr [], c)
  | fuel + 1, c =>
    let (vs, after) := items fuel (c.enter .item)
    (.arr vs, (after.skip 1).leave)

/-- Reads items up to a closing bracket or brace. A text in quotes before a colon begins an object without its
brace; empty values and an ellipsis are left out. -/
def items : Nat → Cursor → List Json × Cursor
  | 0, c => ([], c)
  | fuel + 1, c =>
    if c.next?.all fun d => d = ']' || d = '\x7d' then ([], c)
    else
      let c := c.skipBlanks
      let (v, after) := match c.next? with
        | some d =>
          if !isQuote d then value fuel c
          else if afterFirst? (seekBehind (· = d) c.rest) = some ':' then object fuel c
          else c.phrase
        | none => (.str "", c)
      let isLeftOut := isEmpty v
      let isEllipsis := v.text? = some "..." && after.passed.head? = some '.'
      let after := if isLeftOut then after.skip 1 else after
      let (vs, last) := items fuel (after.skipWhile fun d => Text.isBlank d || d = ',')
      (if isLeftOut || isEllipsis then vs else v :: vs, last)

/-- Reads an object behind its opening brace. One that has no fields but is not empty was meant as an array.
Outside containers, more fields may follow behind the closing brace and a comma. -/
def object : Nat → Cursor → Json × Cursor
  | 0, c => (.obj [], c)
  | fuel + 1, c =>
    let (fs, last) := fields fuel [] c
    let after := last.skip 1
    if fs.isEmpty ∧ c.passed.length + 2 ≤ last.passed.length then
      array fuel { after with passed := c.passed, rest := c.rest }
    else if after.places ≠ [] then (.obj fs, after)
    else
      let after := after.skipBlanks
      if after.next? ≠ some ',' then (.obj fs, after)
      else
        let after := (after.skip 1).skipBlanks
        if !after.next?.any isQuote then (.obj fs, after)
        else
          match object fuel after with
          | (.obj more, after) => (.obj (Entries.putAll fs more), after)
          | (_, after) => (.obj fs, after)

/-- Reads fields up to a closing brace and adds them to those before. Within an array, a name that was there
before begins another object. -/
def fields : Nat → Fields → Cursor → Fields × Cursor
  | 0, fs, c => (fs, c)
  | fuel + 1, fs, c =>
    if c.next?.all (· = '\x7d') then (fs, c)
    else
      let start := (c.skipBlanks.skipOne (· = ':')).enter .name
      let (fs, key, before, after) := name fuel fs start start
      if after.isWithin .item ∧ fs.contains (key : Key) then
        (fs, { before with rest := '\x7b' :: before.rest }.back 1)
      else
        let after := after.skipBlanks
        if after.next?.all (· = '\x7d') then (fs, after)
        else
          let inside := ((after.skip 1).leave.enter .field).skipBlanks
          let (v, after) :=
            if inside.next?.any fun d => d = ',' || d = '\x7d' then (.str "", inside) else value fuel inside
          let next := after.leave.skipOne fun d => d = ',' || d = '\'' || d = '"'
          fields fuel (Entries.put fs (key : Key) v) next.skipBlanks

/-- Reads a name, and tells where it begins. In place of one there may be more items of an array that was closed
too early; the fields are given with them. -/
def name : Nat → Fields → Cursor → Cursor → Fields × String × Cursor × Cursor
  | 0, fs, before, c => (fs, "", before, c)
  | fuel + 1, fs, before, c =>
    if c.rest = [] then (fs, "", before, c)
    else
      match if c.next? = some '[' then extendLast? fs else none with
      | some extend =>
        let (more, after) := array fuel (c.skip 1)
        let fs := match more with
          | .arr vs => extend vs
          | _ => fs
        name fuel fs c (after.skipBlanks.skipOne (· = ',')).skipBlanks
      | none =>
        let (v, after) := c.phrase
        match v.text? with
        | some "" | none =>
          let after := after.skipBlanks
          if after.next?.any fun d => d = ':' || d = '\x7d' then (fs, "", c, after)
          else name fuel fs c after
        | some key => (fs, key, c, after)

end

/-! ## The whole text -/

mutual

/-- Whether two values have the same shape: the same kinds of values in the same places. -/
def sameShape : Json → Json → Bool
  | .arr vs, .arr ws => sameItems vs ws
  | .obj fs, .obj gs => fs.length == gs.length && sameFields fs gs
  | v, w => !v.isContainer && v.kind == w.kind

/-- Whether items have the same shapes one by one. -/
def sameItems : List Json → List Json → Bool
  | [], [] => true
  | v :: vs, w :: ws => sameShape v w && sameItems vs ws
  | _, _ => false

/-- Whether the values of all fields have the shapes of those under the same names. -/
def sameFields : List (Key × Json) → Fields → Bool
  | [], _ => true
  | (k, v) :: rest, gs => (gs.get? k).any (sameShape v) && sameFields rest gs

end

/-- Whether a value counts as nothing: it is empty, null, false or zero. -/
def isNothing : Json → Bool
  | .null | .bool false | .num (.int 0) => true
  | .num (.double x) => x.toInt? = some 0
  | v => isEmpty v

/-- The values that follow others, which are given last one first. A value takes the place of the one before it
if that has its shape or counts as nothing. -/
def more : Nat → List Json → Cursor → List Json
  | 0, vs, _ => vs
  | fuel + 1, vs, c =>
    if c.rest = [] then vs
    else
      let (v, after) := value fuel c.leave
      if isNothing v then more fuel vs (after.skip 1)
      else
        match vs with
        | last :: before =>
          more fuel (if sameShape last v || isNothing last then v :: before else v :: vs) after
        | [] => more fuel [v] after

end Mend

/-- The value that a text stands for when its flaws are mended; several values are given as an array. -/
def mend (text : String) : Json :=
  let cs := text.toList
  -- No character is read more than a few times at one depth.
  let fuel := 12 * (cs.length + 8)
  let (first, after) := Mend.value fuel { rest := cs }
  match Mend.more fuel [first] after with
  | [v] => v
  | vs => .arr vs.reverse

end LiveSurface.Json
