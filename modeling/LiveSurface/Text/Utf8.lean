/-!
# UTF-8 with replacement

`Utf8.decode` reads any list of octets as text. Octets that form no character are replaced by U+FFFD, one
for each maximal run of octets that still could have begun a character.
-/
namespace LiveSurface.Text.Utf8

/-- A character whose first octets have been read: the bits so far, the number of octets still owed, and
the least and the greatest octet that may come next. -/
structure Begun where
  bits : Nat
  owed : Nat
  low : Nat
  high : Nat
deriving DecidableEq, Repr

/-- What an octet is at the start of a character. -/
inductive Lead
  | whole (c : Char)
  | begun (b : Begun)
  | none
deriving DecidableEq, Repr

/-- Reads the first octet of a character. The bounds on the second octet keep out long forms, surrogates
and code points past U+10FFFF. -/
def lead (b : Nat) : Lead :=
  if b ≤ 0x7F then .whole (Char.ofNat b)
  else if 0xC2 ≤ b ∧ b ≤ 0xDF then .begun ⟨b - 0xC0, 1, 0x80, 0xBF⟩
  else if b = 0xE0 then .begun ⟨0, 2, 0xA0, 0xBF⟩
  else if b = 0xED then .begun ⟨0xD, 2, 0x80, 0x9F⟩
  else if 0xE1 ≤ b ∧ b ≤ 0xEF then .begun ⟨b - 0xE0, 2, 0x80, 0xBF⟩
  else if b = 0xF0 then .begun ⟨0, 3, 0x90, 0xBF⟩
  else if 0xF1 ≤ b ∧ b ≤ 0xF3 then .begun ⟨b - 0xF0, 3, 0x80, 0xBF⟩
  else if b = 0xF4 then .begun ⟨4, 3, 0x80, 0x8F⟩
  else .none

/-- The character that stands for octets that form none. -/
def replacement : Char := '\uFFFD'

/-- Decodes the octets after the beginning of a character, if one has begun. -/
def decodeFrom : Option Begun → List UInt8 → List Char
  | none, [] => []
  | some _, [] => [replacement]
  | none, b :: rest =>
    match lead b.toNat with
    | .whole c => c :: decodeFrom none rest
    | .begun p => decodeFrom (some p) rest
    | .none => replacement :: decodeFrom none rest
  | some p, b :: rest =>
    if p.low ≤ b.toNat ∧ b.toNat ≤ p.high then
      let bits := p.bits * 64 + (b.toNat - 0x80)
      if p.owed ≤ 1 then Char.ofNat bits :: decodeFrom none rest
      else decodeFrom (some ⟨bits, p.owed - 1, 0x80, 0xBF⟩) rest
    else
      replacement ::
        match lead b.toNat with
        | .whole c => c :: decodeFrom none rest
        | .begun q => decodeFrom (some q) rest
        | .none => replacement :: decodeFrom none rest

/-- The text that a list of octets encodes. -/
def decode (octets : List UInt8) : String := String.ofList (decodeFrom none octets)

end LiveSurface.Text.Utf8
