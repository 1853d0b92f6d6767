import HtmlComponent.Identifier
import HtmlComponent.Node
import HtmlComponent.Text.Blank

/-!
# The body of a component

A tree as nested calls: a tag calls the function of its name with its attributes, then its children,
each on lines of its own, indented by its depth.
-/

namespace HtmlComponent.Component.Body

def baseIndent : Nat := 12

def indentStep : Nat := 4

def indent (depth : Nat) : String :=
  String.ofList (List.replicate (baseIndent + depth * indentStep) ' ')

/-- Attributes whose names start so hold event handlers and are left out. -/
def isHandler (name : String) : Bool :=
  ['o', 'n'].isPrefixOf name.toList

/-- An attribute's key: bare, unless a hyphen asks for quotes. -/
def key (name : String) : String :=
  if name.toList.contains '-' then Text.jsonString name else name

/-- One attribute as a field: a class is a list of identifiers, any other a literal. -/
def field (name value : String) : String :=
  if name = "class" then "c: [" ++ Identifier.importList (Text.words value) ++ "]"
  else key name ++ ": " ++ Text.templateLiteral value

def fields (entries : List (String × String)) : List String :=
  (entries.filter fun e => !isHandler e.1).map fun e => field e.1 e.2

/-- The attributes as an object; nothing at all if there are none. -/
def attributes (as : Attributes) : String :=
  if as.isEmpty then "" else "\x7b" ++ Text.joinWith ", " (fields as.entries) ++ "\x7d"

/-- The attributes before further arguments. -/
def leadingAttributes (as : Attributes) : String :=
  if as.isEmpty then "" else attributes as ++ ","

mutual

/-- The text of a node at a depth. -/
def node (depth : Nat) : Node → String
  | .root children => Text.joinWith ",\n" (nodes depth children)
  | .text value => indent depth ++ Text.templateLiteral value
  | .tag name as [] => indent depth ++ name ++ "(" ++ attributes as ++ ")"
  | .tag name as (child :: rest) =>
    indent depth ++ name ++ "(" ++ leadingAttributes as ++ "\n" ++
      Text.joinWith ",\n" (node (depth + 1) child :: nodes (depth + 1) rest) ++ "\n" ++
      indent depth ++ ")"

def nodes (depth : Nat) : List Node → List String
  | [] => []
  | child :: rest => node depth child :: nodes depth rest

end

theorem nodes_eq_map (depth : Nat) (children : List Node) :
    nodes depth children = children.map (node depth) := by
  induction children with
  | nil => rfl
  | cons child rest ih => rw [nodes, ih, List.map_cons]

/-- The body for a tree. -/
def ofRoot (root : Node) : String :=
  node 0 root

end HtmlComponent.Component.Body
