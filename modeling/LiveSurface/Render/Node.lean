import LiveSurface.Json.Basic
/-!
# Drawn trees

What a surface looks like: a tree of nodes with a tag, attributes, possibly a text, and children.
-/
namespace LiveSurface

/-- A node of a drawn tree. -/
inductive Node
  | mk (tag : String) (attrs : List (String × Json)) (text : Option String) (children : List Node)
deriving Repr

namespace Node

/-- The kind of a node. -/
def tag : Node → String
  | mk tag _ _ _ => tag

/-- The attributes of a node, in the order in which they are written. -/
def attrs : Node → List (String × Json)
  | mk _ attrs _ _ => attrs

/-- The text of a node. -/
def text : Node → Option String
  | mk _ _ text _ => text

/-- The nodes inside a node. -/
def children : Node → List Node
  | mk _ _ _ children => children

/-- A node with attributes only. -/
def leaf (tag : String) (attrs : List (String × Json)) : Node := mk tag attrs none []

/-- A node with children. -/
def branch (tag : String) (attrs : List (String × Json)) (children : List Node) : Node :=
  mk tag attrs none children

mutual

/-- The nodes with a tag, a node before the ones inside it. -/
def find (wanted : String) : Node → List Node
  | mk tag attrs text children =>
    (if tag = wanted then [mk tag attrs text children] else []) ++ findAll wanted children

/-- The nodes with a tag in a list of trees. -/
def findAll (wanted : String) : List Node → List Node
  | [] => []
  | n :: rest => find wanted n ++ findAll wanted rest

end

mutual

/-- A node as a value: no text and no children are left out. -/
def toJson : Node → Json
  | mk tag attrs text children =>
    .ofFields <| [("tag", .str tag), ("attrs", .ofFields attrs)]
      ++ (match text with
        | some t => [("text", .str t)]
        | none => [])
      ++ (match children with
        | [] => []
        | _ => [("children", .arr (toJsonAll children))])

/-- Nodes as values. -/
def toJsonAll : List Node → List Json
  | [] => []
  | n :: rest => toJson n :: toJsonAll rest

end

end Node

end LiveSurface
