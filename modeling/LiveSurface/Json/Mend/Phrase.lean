import LiveSurface.Json.Mend.Cursor
import LiveSurface.Json.Reader
import LiveSurface.Text.Letter
/-!
# Phrases

A phrase is a text whose quotes may be missing or misplaced. `Cursor.phrase` reads one. A phrase without an
opening quote is bare: it ends where its place ends, and outside names the words `true`, `false`, `null` and
`none` stand for values. A quote inside a phrase closes it, unless what follows shows that it was meant as a
part of the text: `Quotes.verdict` decides. A phrase that no quote closes ends where the place of a field or an
item ends: `Quotes.endsField` decides for commas and braces.
-/
namespace LiveSurface.Json.Mend

/-- Whether a character can open a phrase. -/
def isQuote (c : Char) : Bool := c = '"' || c = '\'' || c = '“' || c = '”'

/-- The quotes of a phrase. -/
structure Quotes where
  opening : Char := '"'
  closing : Char := '"'
  /-- Whether the opening quote is missing. -/
  bare : Bool := false
  /-- Whether the quotes are written twice. -/
  doubled : Bool := false
deriving DecidableEq, Repr

namespace Quotes

/-- The quotes of a phrase that begins with a character: another than a quote leaves the opening one out. -/
def ofFirst (c : Char) : Quotes :=
  if c = '\'' then { opening := '\'', closing := '\'' }
  else if c = '“' then { opening := '“', closing := '”' }
  else { bare := !isQuote c }

/-! ## Where a phrase ends without a quote -/

/-- Whether the last brace in a text, given last character first, is an opening one. -/
def leavesBraceOpen (text : List Char) : Bool :=
  text.find? (fun c => c = '\x7b' || c = '\x7d') = some '\x7b'

/-- Whether a phrase in the value of a field ends before a comma or a closing brace; `cs` begins with that
character. It ends if no closing quote follows, but a colon or nothing but the end of the object does, and if
the next quotes are those of another name. -/
def endsField (q : Quotes) (text cs : List Char) : Bool :=
  let escaped := cs.tail.head? = some '\\'
  match seekBehind (· = q.closing) cs with
  | _ :: after =>
    !escaped && match afterBlanks after with
      | [] => false
      | c :: rest =>
        if c = ',' || c = '\x7d' then false
        else
          let opened := seek (· = q.opening) false (c :: rest)
          opened ≠ [] && ((afterFirst? opened).all (· = ':'))
  | [] =>
    if seekBehind (· = ':') cs ≠ [] then true
    else
      let start := afterBlanks cs.tail
      !escaped && (start = [] || (start.head? = some '\x7d' && !leavesBraceOpen text))

/-- Whether nothing but blanks or a code fence follows the first character. -/
def isLast (cs : List Char) : Bool :=
  let rest := afterBlanks cs.tail
  rest = [] || ['\x60', '\x60', '\x60'].isPrefixOf rest

/-- Whether a phrase ends before the character with which `cs` begins, which is no closing quote; `text` is the
phrase so far, last character first. -/
def ends (q : Quotes) (c : Cursor) (text cs : List Char) : Bool :=
  match cs with
  | [] => true
  | d :: _ =>
    (q.bare && c.place? = some .name && (d = ':' || Text.isBlank d)) ||
      (q.bare && c.place? = some .item && (d = ']' || d = ',')) ||
      (c.place? = some .field && (d = ',' || d = '\x7d') && q.endsField text cs) ||
      (d = ']' && c.isWithin .item && text.head?.any (· ≠ q.closing) &&
        seekBehind (· = q.closing) cs = []) ||
      (c.place? = some .field && d = '\x7d' && isLast cs)

/-- Whether a name in quotes lacks its closing one before a colon, with which `cs` begins: a value in quotes
follows, or no quote at all. -/
def lacksClosing (q : Quotes) (cs : List Char) : Bool :=
  match seekBehind (· = q.opening) cs with
  | [] => true
  | opened =>
    match seekBehind (· = q.closing) opened with
    | [] => false
    | closed => (afterFirst? closed).any fun c => c = ',' || c = '\x7d'

/-! ## Quotes within a phrase -/

/-- What a quote is that could close a phrase. -/
inductive Verdict
  /-- It closes the phrase. -/
  | closes
  /-- It is a part of the text. -/
  | belongs
  /-- It is a part of the text, and so is the next one. -/
  | opensPair
deriving DecidableEq, Repr

/-- What lies ahead of a quote up to the next one, or to a character that ends a place. -/
structure Ahead where
  /-- Whether there are only blanks in between. -/
  blank : Bool := true
  /-- Whether there are no letters in between. -/
  wordless : Bool := true
  /-- Whether a backslash stands before it. -/
  escaped : Bool := false
  /-- What begins with it. -/
  rest : List Char
deriving Repr

/-- Whether a character ends the place of a phrase, or one around it; a comma ends a value only if no word
stands before it. -/
def endsPlace (c : Cursor) (wordless : Bool) (d : Char) : Bool :=
  (c.isWithin .name && (d = ':' || d = '\x7d')) || (c.isWithin .field && d = '\x7d') ||
    (c.isWithin .item && (d = ']' || d = ',')) || (wordless && c.place? = some .field && d = ',')

/-- Looks ahead of a quote. -/
def ahead (q : Quotes) (c : Cursor) (a : Ahead) : Ahead :=
  match _h : a.rest with
  | [] => a
  | d :: rest =>
    let wordless := a.wordless && !Text.isLetter d
    if d = q.closing || d = q.opening then a
    else if endsPlace c wordless d then { a with wordless := wordless }
    else ahead q c ⟨a.blank && Text.isBlank d, wordless, d = '\\', rest⟩
termination_by a.rest.length
decreasing_by simp_all

/-- Whether a colon comes before a comma, a closing bracket and a closing quote. -/
def colonFirst (q : Quotes) (escaped : Bool) : List Char → Bool
  | [] => false
  | c :: rest =>
    if c = ':' then true
    else if c = ',' || c = ']' || c = '\x7d' || (c = q.closing && !escaped) then false
    else q.colonFirst (c = '\\') rest

/-- What a quote in the value of a field is, if another quote follows, with which `cs` begins. It closes the
value if the quotes after that one are those of a name. -/
def verdictInField (q : Quotes) (cs : List Char) : Verdict :=
  let next := afterBlanks cs.tail
  let name := seekBehind (· = q.opening) next
  let after := afterBlanks (seekBehind (· = q.closing) name.tail).tail
  if next.head? = some ',' ∧ after.head? = some ':' then .belongs
  else
    let start := if next.head? = some ',' then after else next
    if q.colonFirst false (seekBehind (· = q.closing) start).tail then .closes else .opensPair

/-- Whether the quotes before the next closing bracket come in pairs; `cs` begins with one. -/
def evenBeforeBracket (q : Quotes) : Nat → List Char → Bool
  | 0, _ => true
  | _, [] => true
  | fuel + 1, c :: rest =>
    if c ≠ q.closing then true
    else
      let isMark (d : Char) : Bool := d = q.closing || d = ']'
      match seekBehind isMark (c :: rest) with
      | d :: more => d = q.closing && q.evenBeforeBracket fuel (seekBehind isMark (d :: more))
      | [] => false

/-- What a closing quote is, `cs` being what follows it. -/
def verdict (q : Quotes) (c : Cursor) (cs : List Char) : Verdict :=
  let a := q.ahead c { rest := cs }
  match a.rest with
  | [] => .closes
  | d :: rest =>
    if d = ',' ∧ c.place? = some .field then
      match afterFirst? (seekBehind (· = q.closing) (d :: rest)) with
      | some e => if e = '\x7d' || e = ',' then .belongs else .closes
      | none => .closes
    else if d = q.closing ∧ !a.escaped ∧ !a.blank then
      match c.place? with
      | some .field => q.verdictInField (d :: rest)
      | some .item => if q.evenBeforeBracket cs.length (d :: rest) then .opensPair else .closes
      | some .name => .belongs
      | none => .closes
    else .closes

/-- Whether a quote in a bare value opens the next name, `cs` being what follows it. -/
def opensName (q : Quotes) (cs : List Char) : Bool :=
  afterFirst? (cs.dropWhile fun d => d ≠ q.closing && d ≠ q.opening) = some ':'

/-! ## Escapes -/

/-- The value of hexadecimal digits, if there are so many. -/
def hex? (count : Nat) (cs : List Char) : Option Nat := do
  let digits ← (cs.take count).mapM Quoted.hexValue?
  if digits.length = count then some (digits.foldl (fun n d => n * 16 + d) 0) else none

/-- The character with the code of an escape, and the length of the escape: two escapes may be needed for the
halves of a surrogate pair; a half alone is no character. -/
def coded (code length : Nat) (after : List Char) : Char × Nat :=
  if 0xD800 ≤ code ∧ code ≤ 0xDBFF then
    match after with
    | '\\' :: 'u' :: rest =>
      match hex? 4 rest with
      | some low =>
        if 0xDC00 ≤ low ∧ low ≤ 0xDFFF then
          (Char.ofNat (0x10000 + (code - 0xD800) * 0x400 + (low - 0xDC00)), length + 6)
        else ('\uFFFD', length)
      | none => ('\uFFFD', length)
    | _ => ('\uFFFD', length)
  else if 0xDC00 ≤ code ∧ code ≤ 0xDFFF then ('\uFFFD', length)
  else (Char.ofNat code, length)

/-- The character for which an escape stands, and how many characters behind the backslash it takes. Backslashes
in a row stand for one of them, and a closing quote behind them for itself. -/
def escape? (q : Quotes) : List Char → Option (Char × Nat)
  | [] => none
  | '\\' :: rest =>
    let run := (rest.takeWhile (· = '\\')).length
    if (rest.drop run).head? = some q.closing then some (q.closing, run + 2) else some ('\\', run + 1)
  | 't' :: _ => some ('\t', 1)
  | 'n' :: _ => some ('\n', 1)
  | 'r' :: _ => some ('\r', 1)
  | 'b' :: _ => some ('\x08', 1)
  | 'u' :: rest => (hex? 4 rest).map fun code => coded code 5 (rest.drop 4)
  | 'x' :: rest => (hex? 2 rest).map fun code => (Char.ofNat code, 3)
  | c :: _ => if isQuote c then some (c, 1) else none

/-! ## Reading -/

/-- Reads a phrase behind its opening quote. The answer is the text, last character first, and the position of
the closing quote, or of what else ended the phrase. Every step takes a character, so that the length of what
is left is fuel enough. With `paired`, the next quote belongs to the text. -/
def body (q : Quotes) : Nat → Cursor → List Char → Bool → List Char × Cursor
  | 0, c, text, _ => (text, c)
  | fuel + 1, c, text, paired =>
    match c.rest with
    | [] => (text, c)
    | d :: rest =>
      if d = q.closing || q.ends c text (d :: rest) then (text, c)
      else
        match if d = '\\' then q.escape? rest else none with
        | some (e, length) => body q fuel (c.skip (length + 1)) (e :: text) paired
        | none =>
          let text := d :: text
          let here := c.skip 1
          match rest with
          | [] => (text, here)
          | e :: after =>
            if e = ':' && !q.bare && c.place? = some .name && q.lacksClosing rest then (text, here)
            else if e ≠ q.closing then body q fuel here text paired
            else if q.doubled && after.head? = some q.closing then (text, here.skip 1)
            else if q.bare && c.place? = some .field then
              (text, if q.opensName after then c else here)
            else if paired then body q fuel (here.skip 1) (e :: text) false
            else
              match q.verdict c after with
              | .closes => (text, here)
              | .belongs => body q fuel (here.skip 1) (e :: text) paired
              | .opensPair => body q fuel (here.skip 1) (e :: text) true

/-- A text, last character first, without the blanks at its end. -/
def trimmed (text : List Char) : String := String.ofList (text.dropWhile Text.isBlank).reverse

/-- Goes on past the closing quote of a phrase, if it is there. A bare name with a word behind it is a remark
and counts for nothing. -/
def finish (q : Quotes) (text : List Char) (c : Cursor) : String × Cursor :=
  let next := c.next?
  if q.bare && c.place? = some .name && next.any Text.isBlank then
    let after := c.skipBlanks
    if after.next?.any fun d => d = ':' || d = ',' then (trimmed text, after) else ("", after)
  else if next ≠ some q.closing then (trimmed text, c)
  else if q.bare || text.head? = some '\n' then (trimmed text, c.skip 1)
  else (String.ofList text.reverse, c.skip 1)

/-- Reads a phrase behind its opening quote. -/
def read (q : Quotes) (c : Cursor) : String × Cursor :=
  let (text, after) := q.body (c.rest.length + 1) c [] false
  q.finish text after

/-- Whether the place of a phrase ends with a character. -/
def closesPlace (place : Option Place) (d : Char) : Bool :=
  match place with
  | some .name => d = ':'
  | some .field => d = ',' || d = '\x7d'
  | some .item => d = ',' || d = ']'
  | none => false

/-- Reads a phrase behind its opening quote, if another quote follows at once: the phrase is empty, or one of
the quotes is too many. -/
def readDoubled (q : Quotes) (c : Cursor) : String × Cursor :=
  let after := c.rest.tail
  let closed := seekBehind (· = q.closing) c.rest
  let next := afterFirst? c.rest
  if after.head?.any (closesPlace c.place?) then ("", c.skip 1)
  else if after.head? = some q.opening then ("", c)
  else if closed.tail.head? = some q.closing then { q with doubled := true }.read (c.skip 1)
  else if next.any fun d => isQuote d || d = '\x7b' || d = '[' then ("", c.skip 1)
  else if next.any fun d => d = ',' || d = ']' || d = '\x7d' then q.read c
  else q.read (c.skip 1)

end Quotes

/-- The value for which a word in any case of letters stands, and its length. No letter or digit may follow. -/
def literal? (cs : List Char) : Option (Json × Nat) :=
  let words : List (String × Json) :=
    [("true", .bool true), ("false", .bool false), ("null", .null), ("none", .null)]
  let stands (word : String) : Bool :=
    (cs.take word.length).map Char.toLower = word.toList &&
      !(cs.drop word.length).head?.any fun c => Text.isAlphanumeric c || c = '_'
  (words.find? fun w => stands w.1).map fun w => (w.2, w.1.length)

/-- Reads the phrase that begins with the next quote, letter or digit. A comment in its place is an empty one. -/
def Cursor.phrase (c : Cursor) : Json × Cursor :=
  if c.next?.any fun d => d = '#' || d = '/' then (.str "", c.skipComment)
  else
    let start := c.skipWhile fun d => !isQuote d && !Text.isAlphanumeric d
    match start.rest with
    | [] => (.str "", start)
    | d :: _ =>
      let q := Quotes.ofFirst d
      let whole (r : String × Cursor) : Json × Cursor := (.str r.1, r.2)
      if q.bare then
        match if c.place? = some .name then none else literal? start.rest with
        | some (v, length) => (v, start.skip length)
        | none => whole (q.read start)
      else
        let inside := start.skip 1
        if inside.next? = some q.opening then whole (q.readDoubled inside) else whole (q.read inside)

end LiveSurface.Json.Mend
