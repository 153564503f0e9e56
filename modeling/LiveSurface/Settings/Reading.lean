import LiveSurface.Json.Basic
import LiveSurface.Number.Numeral
import LiveSurface.Settings.Basic
import LiveSurface.Settings.Field
import LiveSurface.Text.Blank
import LiveSurface.Text.DecimalDigit
/-!
# Reading settings

A setting is given as a value; texts that spell a flag or an integer will do for one. `Settings.set` reads a
value into one setting and tells why it cannot be used.
-/
namespace LiveSurface

/-- Why a value is no use for a setting. -/
inductive SettingFault
  | notText
  | notFlag
  | unclearFlag
  | notInteger
  | unreadableInteger
  | longInteger
  | fractional
  | notPositive
deriving DecidableEq, Repr

/-- The text of a fault. -/
def SettingFault.message : SettingFault → String
  | .notText => "Input should be a valid string"
  | .notFlag => "Input should be a valid boolean"
  | .unclearFlag => "Input should be a valid boolean, unable to interpret input"
  | .notInteger => "Input should be a valid integer"
  | .unreadableInteger => "Input should be a valid integer, unable to parse string as an integer"
  | .longInteger => "Unable to parse input string as an integer, exceeded maximum size"
  | .fractional => "Input should be a valid integer, got a number with a fractional part"
  | .notPositive => "Input should be greater than 0"

namespace Settings

/-! ## Texts and flags -/

/-- Reads a text. -/
def readText : Json → Except SettingFault String
  | .str s => .ok s
  | _ => .error .notText

/-- The words that stand for a set flag. -/
def yesWords : List String := ["1", "on", "t", "true", "y", "yes"]

/-- The words that stand for a clear flag. -/
def noWords : List String := ["0", "off", "f", "false", "n", "no"]

/-- Reads the word for a flag; the case of the letters `A` to `Z` does not count. -/
def readFlagWord (s : String) : Except SettingFault Bool :=
  let word := String.ofList (s.toList.map Char.toLower)
  if word ∈ yesWords then .ok true
  else if word ∈ noWords then .ok false
  else .error .unclearFlag

/-- Reads a number as a flag. -/
def readFlagNumber (n : Int) : Except SettingFault Bool :=
  if n = 1 then .ok true else if n = 0 then .ok false else .error .unclearFlag

/-- Reads a flag. -/
def readFlag : Json → Except SettingFault Bool
  | .bool b => .ok b
  | .str s => readFlagWord s
  | .num (.int n) => readFlagNumber n
  | .num (.double x) =>
    match x.toInt? with
    | some n => readFlagNumber n
    | none => .error .notFlag
  | _ => .error .notFlag

/-! ## Integers -/

/-- Splits a minus sign off. -/
def splitMinus : List Char → Bool × List Char
  | '-' :: rest => (true, rest)
  | cs => (false, cs)

/-- Reads a plain numeral: digits with no zero in front of others, after a minus sign perhaps. One that
begins with too many digits is too long, whatever follows them. -/
def readPlain (cs : List Char) : Except SettingFault Int :=
  let (negative, rest) := splitMinus cs
  let digits := rest.takeWhile Text.isAsciiDigit
  let first := digits.head?
  let size := digits.length + if negative then 1 else 0
  if first ≠ some '0' ∧ maxDigits < size then .error .longInteger
  else if digits = [] ∨ digits ≠ rest ∨ (first = some '0' ∧ digits ≠ ['0']) then .error .unreadableInteger
  else
    let n : Int := Text.decimalValue digits
    .ok (if negative then -n else n)

/-- Drops the zeros in front of a numeral, `last` being the one before it, together with underscores among
them; a minus sign may stand behind them, and one character is kept before a point and at the end. -/
def skipZeros? (last : Char) : List Char → Option (List Char)
  | [] => some [last]
  | c :: rest =>
    if c = '0' ∨ c = '_' then skipZeros? c rest
    else if Text.isAsciiDigit c ∨ c = '-' then some (c :: rest)
    else if c = '.' then some (last :: c :: rest)
    else none

/-- A numeral without the zeros in front; it must begin with a digit. -/
def withoutZeros? : List Char → Option (List Char)
  | [] => none
  | c :: rest =>
    if c = '0' then skipZeros? '0' rest
    else if Text.isAsciiDigit c then some (c :: rest)
    else none

/-- A numeral without a fraction of nothing but zeros. -/
def withoutFraction (cs : List Char) : List Char :=
  match cs.dropWhile (· ≠ '.') with
  | '.' :: c :: rest => if (c :: rest).all (· = '0') then cs.takeWhile (· ≠ '.') else cs
  | _ => cs

/-- Whether two underscores stand side by side. -/
def hasDoubleUnderscore : List Char → Bool
  | '_' :: '_' :: _ => true
  | _ :: rest => hasDoubleUnderscore rest
  | [] => false

/-- A numeral without its underscores, unless one of them stands at an end or beside another. -/
def withoutUnderscores (cs : List Char) : List Char :=
  if cs.head? = some '_' ∨ cs.getLast? = some '_' ∨ hasDoubleUnderscore cs then cs
  else cs.filter (· ≠ '_')

/-- A numeral made plain: without spaces around it, a plus sign, zeros in front, a fraction of zeros and
single underscores. -/
def plain? (cs : List Char) : Option (List Char) := do
  let cs := Text.trimSpaces cs
  let (negative, rest) := splitMinus cs
  let digits ← withoutZeros? (if cs.head? = some '+' then cs.drop 1 else rest)
  let digits := withoutUnderscores (withoutFraction digits)
  pure (if negative then '-' :: digits else digits)

/-- Reads the numeral of an integer; if it is not plain, it is made so. -/
def readNumeral (s : String) : Except SettingFault Int :=
  match readPlain s.toList with
  | .error .unreadableInteger =>
    match plain? s.toList with
    | some cs => readPlain cs
    | none => .error .unreadableInteger
  | answer => answer

/-- Reads an integer. -/
def readInteger : Json → Except SettingFault Int
  | .bool b => .ok (if b then 1 else 0)
  | .num (.int n) => .ok n
  | .num (.double x) =>
    match x.toInt? with
    | some n => .ok n
    | none => .error .fractional
  | .str s => readNumeral s
  | _ => .error .notInteger

/-- Reads a limit: a positive integer. -/
def readLimit (v : Json) : Except SettingFault Nat :=
  match readInteger v with
  | .error e => .error e
  | .ok n => if 0 < n then .ok n.toNat else .error .notPositive

theorem pos_of_readLimit {v : Json} {n : Nat} (h : readLimit v = .ok n) : 0 < n := by
  unfold readLimit at h
  split at h
  · cases h
  · split at h
    · cases h; omega
    · cases h

/-! ## Settings -/

/-- The settings with one of them read from a value. -/
def set (s : Settings) (f : SettingsField) (v : Json) : Except SettingFault Settings :=
  match f with
  | .logLevel => (readText v).map fun t => { s with logLevel := t }
  | .jsonLogs => (readFlag v).map fun b => { s with jsonLogs := b }
  | .maxBatchBytes => (readLimit v).map fun n => { s with maxBatchBytes := n }
  | .maxJsonDepth => (readLimit v).map fun n => { s with maxJsonDepth := n }
  | .maxMessages => (readLimit v).map fun n => { s with maxMessages := n }
  | .maxRenderDepth => (readLimit v).map fun n => { s with maxRenderDepth := n }
  | .defaultCatalogId => (readText v).map fun t => { s with defaultCatalogId := t }
  | .maxPromptLength => (readLimit v).map fun n => { s with maxPromptLength := n }

/-- The settings as an object, in the order in which they are checked. -/
def toJson (s : Settings) : Json :=
  .ofFields [(SettingsField.logLevel.word, .str s.logLevel),
    (SettingsField.jsonLogs.word, .bool s.jsonLogs),
    (SettingsField.maxBatchBytes.word, .ofNat s.maxBatchBytes),
    (SettingsField.maxJsonDepth.word, .ofNat s.maxJsonDepth),
    (SettingsField.maxMessages.word, .ofNat s.maxMessages),
    (SettingsField.maxRenderDepth.word, .ofNat s.maxRenderDepth),
    (SettingsField.defaultCatalogId.word, .str s.defaultCatalogId),
    (SettingsField.maxPromptLength.word, .ofNat s.maxPromptLength)]

end Settings

end LiveSurface
