import LiveSurface.Text.Blank
/-!
# Reading positions

Text that is almost JSON is read with a `Cursor`: what was read, what is left, and the places in arrays and
objects that reading has entered. Reading looks ahead to tell what a flawed part was meant to be: `seek` and
`seekBehind` find the next character of a kind, and pass over one behind a backslash.

Results:
* `skip_back`: going back undoes going on.
* `seek_suffix`: what is found ahead is a part of what is left.
-/
namespace LiveSurface.Json.Mend

/-- What is read: an item of an array, the name of a field or the value of a field. -/
inductive Place
  | item | name | field
deriving DecidableEq, Repr

/-- A position in a text. -/
structure Cursor where
  /-- What was read, last character first. -/
  passed : List Char := []
  rest : List Char
  /-- The places that were entered and not left, innermost first. -/
  places : List Place := []
deriving Repr

namespace Cursor

/-- The next character. -/
def next? (c : Cursor) : Option Char := c.rest.head?

/-- Goes on by some characters, at most to the end. -/
def skip (n : Nat) (c : Cursor) : Cursor :=
  { c with passed := (c.rest.take n).reverse ++ c.passed, rest := c.rest.drop n }

/-- Goes back by some characters, at most to the start. -/
def back (n : Nat) (c : Cursor) : Cursor :=
  { c with passed := c.passed.drop n, rest := (c.passed.take n).reverse ++ c.rest }

/-- Goes on while the next character is of a kind. -/
def skipWhile (p : Char → Bool) (c : Cursor) : Cursor := c.skip (c.rest.takeWhile p).length

/-- Goes on to the next character that is not blank. -/
def skipBlanks (c : Cursor) : Cursor := c.skipWhile Text.isBlank

/-- Goes on by one character if it is of a kind. -/
def skipOne (p : Char → Bool) (c : Cursor) : Cursor := if c.next?.any p then c.skip 1 else c

/-- Enters a place. -/
def enter (p : Place) (c : Cursor) : Cursor := { c with places := p :: c.places }

/-- Leaves the innermost place. -/
def leave (c : Cursor) : Cursor := { c with places := c.places.tail }

/-- The innermost place. -/
def place? (c : Cursor) : Option Place := c.places.head?

/-- Whether a place of a kind was entered. -/
def isWithin (p : Place) (c : Cursor) : Bool := c.places.contains p

theorem skip_back {n : Nat} {c : Cursor} (h : n ≤ c.rest.length) : (c.skip n).back n = c := by
  have hn : (c.rest.take n).reverse.length = n := by simp [h]
  obtain ⟨passed, rest, places⟩ := c
  simp only [skip, back, Cursor.mk.injEq, and_true]
  refine ⟨by rw [List.drop_left' hn], ?_⟩
  rw [List.take_left' hn, List.reverse_reverse, List.take_append_drop]

end Cursor

/-! ## Looking ahead -/

/-- What begins with the next character of a kind. A character behind a backslash does not count; `escaped`
tells whether the first one is. -/
def seek (p : Char → Bool) (escaped : Bool) : List Char → List Char
  | [] => []
  | c :: rest => if p c && !escaped then c :: rest else seek p (c = '\\') rest

/-- What begins with the next character of a kind behind the first character. -/
def seekBehind (p : Char → Bool) : List Char → List Char
  | [] => []
  | c :: rest => seek p (c = '\\') rest

/-- What follows the blanks in front. -/
def afterBlanks (cs : List Char) : List Char := cs.dropWhile Text.isBlank

/-- The first character behind another one and the blanks after it. -/
def afterFirst? (cs : List Char) : Option Char := (afterBlanks cs.tail).head?

theorem seek_suffix (p : Char → Bool) (escaped : Bool) (cs : List Char) : seek p escaped cs <:+ cs := by
  induction cs generalizing escaped with
  | nil => exact List.suffix_refl _
  | cons c rest ih =>
    unfold seek
    split
    · exact List.suffix_refl _
    · exact (ih _).trans (List.suffix_cons c rest)

/-! ## Comments -/

/-- Goes on past a comment up to its end: `*/`, or for one that begins with `#` or `//` the end of the line,
and within an array or an object also what ends an item, a value or a name. A lone slash is passed over. -/
def Cursor.skipComment (c : Cursor) : Cursor :=
  let ends (d : Char) : Bool :=
    d = '\n' || d = '\r' || (d = ']' && c.isWithin .item) || (d = '\x7d' && c.isWithin .field) ||
      (d = ':' && c.isWithin .name)
  match c.rest with
  | '/' :: '/' :: _ => (c.skip 2).skipWhile (!ends ·)
  | '/' :: '*' :: rest => c.skip (1 + blockLength ('*' :: rest))
  | '/' :: _ => c.skip 1
  | _ => c.skipWhile (!ends ·)
where
  /-- The length of a comment behind its slash, with the closing `*/`. -/
  blockLength : List Char → Nat
    | [] => 0
    | '*' :: '/' :: _ => 2
    | _ :: rest => blockLength rest + 1

end LiveSurface.Json.Mend
