import LiveSurface.Component.Basic
import LiveSurface.Json.Display
import LiveSurface.Number.Spelled
import LiveSurface.Path.Tree
/-!
# What bound properties show

`Bindable.resolve` finds the value that a property shows; the other functions turn it into a text, a number
or a truth value. A value that cannot be found is null.
-/
namespace LiveSurface

namespace Binding

/-- The literal that was sent, the first one of string, number, boolean and array. -/
def literal? (b : Binding) : Option Json :=
  b.literalString <|> b.literalNumber <|> b.literalBoolean <|> b.literalArray

/-- The value of a binding: its literal, or else what the data model holds at its path. -/
def resolve (b : Binding) (data : Json) (context : String) : Except LongNumeral Json :=
  match b.literal? with
  | some v => .ok v
  | none =>
    match b.path.join with
    | some path => data.getAt (Path.resolve path context)
    | none => .ok .null

end Binding

/-- The value that a property shows, null if it was not sent. -/
def Bindable.resolve (v : Option Bindable) (data : Json) (context : String) :
    Except LongNumeral Json :=
  match v with
  | none => .ok .null
  | some (.plain v) => .ok v
  | some (.bound b) => b.resolve data context

/-! ## Texts -/

/-- The text that shows a value: nothing for null, integral doubles without a fraction, and arrays and
objects as compact JSON. -/
def Json.shown : Json → Except LongNumeral String
  | .null => .ok ""
  | .bool b => .ok (if b then "true" else "false")
  | .num (.int n) => if isWritableInt n then .ok (String.ofList (Json.intChars n)) else .error .integer
  | .num (.double x) =>
    match x.toInt? with
    | some n => .ok (String.ofList (Json.intChars n))
    | none => .ok (x.write Json.displayNumbers)
  | .str s => .ok s
  | v => v.compact

/-! ## Numbers -/

/-- The finite number that a value is or spells out. -/
def Json.number? : Json → Option Number
  | .num (.int n) => some (.int n)
  | .num (.double x) => if x.isFinite then some (.double x) else none
  | .str s => Number.ofText? s
  | _ => none

namespace Bindable

/-- The text that a property shows. -/
def text (v : Option Bindable) (data : Json) (context : String) : Except LongNumeral String := do
  let resolved ← resolve v data context
  resolved.shown

/-- The number that a property shows. -/
def number? (v : Option Bindable) (data : Json) (context : String) :
    Except LongNumeral (Option Number) :=
  Json.number? <$> resolve v data context

/-- The truth value that a property shows, `default` if it shows none. -/
def flag (v : Option Bindable) (data : Json) (context : String) (default : Bool) :
    Except LongNumeral Bool := do
  match ← resolve v data context with
  | .bool b => .ok b
  | _ => .ok default

end Bindable

end LiveSurface
