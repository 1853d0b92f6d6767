import HtmlComponent.Attributes
import HtmlComponent.Json

/-!
# Element trees

The tree of a document: a root, tags with attributes, and texts.
-/

namespace HtmlComponent

inductive Node where
  | root (children : List Node)
  | tag (name : String) (attributes : Attributes) (children : List Node)
  | text (value : String)

namespace Node

def children : Node → List Node
  | .root children => children
  | .tag _ _ children => children
  | .text _ => []

/-- Adds a last child; a text has none and stays as it is. -/
def addChild (node child : Node) : Node :=
  match node with
  | .root children => .root (children ++ [child])
  | .tag name attributes children => .tag name attributes (children ++ [child])
  | .text value => .text value

mutual

def toJson : Node → Json
  | .root children => .object [("type", .string "root"), ("children", .array (listToJson children))]
  | .tag name attributes children =>
    .object [("type", .string "tag"), ("name", .string name),
      ("attributes", .object (attributes.entries.map fun e => (e.1, .string e.2))),
      ("children", .array (listToJson children))]
  | .text value => .object [("type", .string "text"), ("value", .string value)]

def listToJson : List Node → List Json
  | [] => []
  | child :: rest => child.toJson :: listToJson rest

end

mutual

/-- Whether two trees are the same up to the order of attributes. -/
def same : Node → Node → Bool
  | .root xs, .root ys => sameList xs ys
  | .tag m as xs, .tag n bs ys => m == n && as.same bs && sameList xs ys
  | .text v, .text w => v == w
  | _, _ => false

def sameList : List Node → List Node → Bool
  | [], [] => true
  | x :: xs, y :: ys => x.same y && sameList xs ys
  | _, _ => false

end

end Node

end HtmlComponent
