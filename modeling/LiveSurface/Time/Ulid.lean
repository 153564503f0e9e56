import LiveSurface.Time.Instant
/-!
# Sortable identifiers

A ULID is a number of 128 bits, written with 26 digits of base 32; its upper 48 bits are the milliseconds
at which it was made. An id may have a name and an underscore in front.
-/
namespace LiveSurface

/-- A number of 128 bits that begins with a time. -/
structure Ulid where
  value : Nat
deriving DecidableEq, Repr

namespace Ulid

/-- The digits of base 32: the letters I, L, O and U are none. -/
def digits : List Char :=
  ['0', '1', '2', '3', '4', '5', '6', '7', '8', '9', 'A', 'B', 'C', 'D', 'E', 'F', 'G', 'H', 'J', 'K', 'M',
   'N', 'P', 'Q', 'R', 'S', 'T', 'V', 'W', 'X', 'Y', 'Z']

/-- The value of a digit; the case of letters does not count. -/
def digitValue? (c : Char) : Option Nat := digits.findIdx? (· = c.toUpper)

/-- The number of digits. -/
def size : Nat := 26

/-- Reads digits; the first one is at most 7, as 26 digits hold two bits more than there are. -/
def ofChars? (cs : List Char) : Option Ulid := do
  let values ← cs.mapM digitValue?
  let value := values.foldl (fun n d => n * 32 + d) 0
  if cs.length = size ∧ value < pow2 128 then some ⟨value⟩ else none

/-- What stands after the last underscore of an id. -/
def lastPart (cs : List Char) : List Char := (cs.reverse.takeWhile (· ≠ '_')).reverse

/-- The ULID in an id. -/
def ofId? (id : String) : Option Ulid := ofChars? (lastPart id.toList)

/-- The milliseconds at which a ULID was made. -/
def milliseconds (u : Ulid) : Nat := u.value / pow2 80

/-- The instant at which a ULID was made. -/
def instant (u : Ulid) : Instant := .ofMilliseconds u.milliseconds

end Ulid

end LiveSurface
