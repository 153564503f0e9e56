/-!
# The standard catalog

The component types that can be drawn and the words that their properties accept. A word outside its
vocabulary counts as the default.
-/
namespace LiveSurface

/-- The component types of the standard catalog. -/
inductive ComponentType
  | text | image | icon | row | column | list | card | button | textField | divider | slider | checkBox
  | multipleChoice | dateTimeInput | tabs | modal
deriving DecidableEq, Repr

namespace ComponentType

/-- All component types. -/
def all : List ComponentType :=
  [.text, .image, .icon, .row, .column, .list, .card, .button, .textField, .divider, .slider, .checkBox,
   .multipleChoice, .dateTimeInput, .tabs, .modal]

/-- The name of a type in component records. -/
def word : ComponentType → String
  | .text => "Text"
  | .image => "Image"
  | .icon => "Icon"
  | .row => "Row"
  | .column => "Column"
  | .list => "List"
  | .card => "Card"
  | .button => "Button"
  | .textField => "TextField"
  | .divider => "Divider"
  | .slider => "Slider"
  | .checkBox => "CheckBox"
  | .multipleChoice => "MultipleChoice"
  | .dateTimeInput => "DateTimeInput"
  | .tabs => "Tabs"
  | .modal => "Modal"

/-- The type with a name. -/
def ofWord? (name : String) : Option ComponentType := all.find? fun t => t.word = name

theorem ofWord?_word (t : ComponentType) : ofWord? t.word = some t := by cases t <;> decide

theorem word_of_ofWord? {name : String} {t : ComponentType} (h : ofWord? name = some t) :
    t.word = name := by
  simpa using List.find?_some h

end ComponentType

/-- The words that a property accepts and the one it has by default. -/
structure Vocabulary where
  words : List String
  default : String
deriving Repr

namespace Vocabulary

/-- A word of the vocabulary: the given one if it belongs to it, else the default. -/
def pick (v : Vocabulary) (word : Option String) : String :=
  match word with
  | some w => if w ∈ v.words then w else v.default
  | none => v.default

/-- The vocabulary with another default. -/
def withDefault (v : Vocabulary) (default : String) : Vocabulary := { v with default := default }

theorem pick_mem {v : Vocabulary} (h : v.default ∈ v.words) (word : Option String) :
    v.pick word ∈ v.words := by
  unfold pick
  split
  · split <;> assumption
  · exact h

end Vocabulary

namespace Catalog

/-- The id of the component under which drawing begins. -/
def rootId : String := "root"

/-- The names of the component types; there is no default among them. -/
def componentTypes : Vocabulary := ⟨ComponentType.all.map ComponentType.word, ""⟩

def textUsageHints : Vocabulary := ⟨["h1", "h2", "h3", "h4", "h5", "caption", "body"], "body"⟩

def imageFits : Vocabulary := ⟨["contain", "cover", "fill", "none", "scale-down"], "cover"⟩

def imageUsageHints : Vocabulary :=
  ⟨["icon", "avatar", "smallFeature", "mediumFeature", "largeFeature", "header"], "mediumFeature"⟩

def distributions : Vocabulary :=
  ⟨["start", "center", "end", "spaceBetween", "spaceAround", "spaceEvenly"], "start"⟩

def alignments : Vocabulary := ⟨["start", "center", "end", "stretch"], "center"⟩

def directions : Vocabulary := ⟨["vertical", "horizontal"], "vertical"⟩

def textFieldTypes : Vocabulary := ⟨["date", "longText", "number", "shortText", "obscured"], "shortText"⟩

def axes : Vocabulary := ⟨["horizontal", "vertical"], "horizontal"⟩

/-- The icon that is drawn when none is named. -/
def defaultIcon : String := "help"

/-- The bounds of a slider that sends none. -/
def sliderMin : Int := 0

/-- The upper bound of a slider that sends none. -/
def sliderMax : Int := 100

end Catalog

end LiveSurface
