import LiveSurface.Entries
import LiveSurface.Number.Basic
/-!
# JSON values

The values that messages carry and data models hold. Objects keep their entries in order of arrival.

A name in an object may have been written with an unpaired surrogate escape. Such a name is no Unicode
text; it is kept with U+FFFD for each half and marked as not `intact`, and no text is equal to it.
-/
namespace LiveSurface

/-- The name of an object's entry. -/
structure Key where
  text : String
  /-- Whether the name was written without unpaired surrogates. -/
  intact : Bool := true
deriving DecidableEq, Repr

instance : Coe String Key := ⟨fun s => { text := s }⟩

/-- A JSON value. -/
inductive Json
  | null
  | bool (b : Bool)
  | num (n : Number)
  | str (s : String)
  | arr (items : List Json)
  | obj (fields : List (Key × Json))
deriving Repr

instance : Inhabited Json := ⟨.null⟩

/-- The fields of an object. -/
abbrev Fields := Entries Key Json

/-- The kinds of values. -/
inductive Kind
  | null | bool | int | double | str | arr | obj
deriving DecidableEq, Repr

namespace Json

/-- The kind of a value. -/
def kind : Json → Kind
  | .null => .null
  | .bool _ => .bool
  | .num (.int _) => .int
  | .num (.double _) => .double
  | .str _ => .str
  | .arr _ => .arr
  | .obj _ => .obj

/-- Induction over a value, through the items and the fields of its containers. -/
@[elab_as_elim, induction_eliminator]
theorem induct {motive : Json → Prop} (null : motive .null) (bool : ∀ b, motive (.bool b))
    (num : ∀ n, motive (.num n)) (str : ∀ s, motive (.str s))
    (arr : ∀ items : List Json, (∀ v ∈ items, motive v) → motive (.arr items))
    (obj : ∀ fields : List (Key × Json), (∀ e ∈ fields, motive e.2) → motive (.obj fields)) (v : Json) : motive v :=
  match v with
  | .null => null
  | .bool b => bool b
  | .num n => num n
  | .str s => str s
  | .arr items => arr items fun v _ => induct null bool num str arr obj v
  | .obj fields => obj fields fun e _ => induct null bool num str arr obj e.2
termination_by sizeOf v
decreasing_by
  · rename_i h
    exact Nat.lt_trans (List.sizeOf_lt_of_mem h) (by simp)
  · rename_i h
    have hfields := List.sizeOf_lt_of_mem h
    obtain ⟨k, v⟩ := e
    simp only [Prod.mk.sizeOf_spec, Json.obj.sizeOf_spec] at hfields ⊢
    omega

/-- Whether a value is an array or an object. -/
def isContainer : Json → Bool
  | .arr _ | .obj _ => true
  | _ => false

/-- The text that a value is. -/
def text? : Json → Option String
  | .str s => some s
  | _ => none

theorem eq_of_text? {v : Json} {s : String} (h : v.text? = some s) : v = .str s := by
  cases v with
  | str s' =>
    cases h
    rfl
  | _ => cases h

/-- A natural number as a value. -/
def ofNat (n : Nat) : Json := .num (.int n)

/-- An integer as a value. -/
def ofInt (n : Int) : Json := .num (.int n)

/-- A value for an optional one: null if there is none. -/
def ofOption {α : Type} (f : α → Json) : Option α → Json
  | none => .null
  | some a => f a

/-- An object with the given names. -/
def ofFields (fields : List (String × Json)) : Json := .obj (fields.map fun e => (e.1, e.2))

end Json

/-- The word for a kind of value in messages. -/
def Kind.word : Kind → String
  | .null => "NoneType"
  | .bool => "bool"
  | .int => "int"
  | .double => "float"
  | .str => "str"
  | .arr => "list"
  | .obj => "dict"

end LiveSurface
