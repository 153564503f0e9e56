import LiveSurface.Json.Basic
import LiveSurface.Text.Blank
/-!
# Prompts

A prompt is a text with something in it besides blanks; the blanks around it are dropped. As a request it is
the only field, `message`, of an object.

Results:
* `ofJson_eq_ok_iff`: which values are prompts, and of which text.
-/
namespace LiveSurface

/-- Why a field of a request is refused. -/
inductive PromptFault
  | missing
  | notText
  | empty
  | blank
  | unknownField
deriving DecidableEq, Repr

/-- The text of a fault. -/
def PromptFault.message : PromptFault → String
  | .missing => "Field required"
  | .notText => "Input should be a valid string"
  | .empty => "String should have at least 1 character"
  | .blank => "Value error, Message cannot be empty"
  | .unknownField => "Extra inputs are not permitted"

namespace Prompt

/-- The name of the field that holds the prompt. -/
def fieldName : String := "message"

/-- The prompt that a value is, without the blanks around it. -/
def ofJson : Json → Except PromptFault String
  | .str s =>
    if s = "" then .error .empty
    else if Text.strip s = "" then .error .blank
    else .ok (Text.strip s)
  | _ => .error .notText

theorem ofJson_eq_ok_iff {v : Json} {text : String} :
    ofJson v = .ok text ↔ ∃ s, v = .str s ∧ Text.strip s = text ∧ text ≠ "" := by
  cases v with
  | str s =>
    by_cases he : s = ""
    · subst he
      have hs : Text.strip "" = "" := by decide
      simp only [ofJson, if_true, Json.str.injEq, exists_eq_left', hs]
      constructor
      · intro h; cases h
      · rintro ⟨rfl, h⟩; exact absurd rfl h
    · by_cases hb : Text.strip s = ""
      · simp only [ofJson, he, hb, if_false, if_true, Json.str.injEq, exists_eq_left']
        constructor
        · intro h; cases h
        · rintro ⟨rfl, h⟩; exact absurd rfl h
      · simp only [ofJson, he, hb, if_false, Json.str.injEq, exists_eq_left', Except.ok.injEq]
        constructor
        · rintro rfl; exact ⟨rfl, hb⟩
        · exact And.left
  | null | bool _ | num _ | arr _ | obj _ => simp [ofJson]

/-- The prompt in a field that may be absent. -/
def ofField : Option Json → Except PromptFault String
  | none => .error .missing
  | some v => ofJson v

/-- The names of the fields that a request may not have. -/
def unknownNames (fields : Fields) : List String :=
  (fields.filter fun e => e.1 ≠ (fieldName : Key)).map fun e => e.1.text

/-- The prompt in a request; all faults are reported, that of the prompt first. -/
def ofFields (fields : Fields) : Except (List (String × PromptFault)) String :=
  let unknown := (unknownNames fields).map fun name => (name, PromptFault.unknownField)
  match ofField (fields.get? (fieldName : Key)), unknown with
  | .ok text, [] => .ok text
  | .ok _, faults => .error faults
  | .error fault, faults => .error ((fieldName, fault) :: faults)

end Prompt

end LiveSurface
