import HtmlComponent.Event

/-!
# Parsed markup

The tree that markup stands for, and its events. An element keeps the contents of a template apart
from its children. Comments and declarations are in the tree but give no events.
-/

namespace HtmlComponent

/-- An attribute, whose name may be qualified. -/
structure DomAttribute where
  qualifier : Option String
  localName : String
  value : String

/-- The name of an attribute with its qualifier. -/
def DomAttribute.name (a : DomAttribute) : String :=
  match a.qualifier with
  | none => a.localName
  | some qualifier => qualifier ++ ":" ++ a.localName

/-- The attributes of an element; of a repeated name the first counts. -/
def collectAttributes (as : List DomAttribute) : Attributes :=
  Attributes.ofFirstPairs (as.map fun a => (a.name, a.value))

inductive Dom where
  | document (children : List Dom)
  | doctype
  | comment
  | processingInstruction
  | text (value : String)
  | element (name : String) (attributes : List DomAttribute) (contents : Option (List Dom))
      (children : List Dom)

namespace Dom

mutual

/-- The events of a node, depth first. -/
def events : Dom → List Event
  | .document children => listEvents children
  | .doctype => []
  | .comment => []
  | .processingInstruction => []
  | .text value => [.text value]
  | .element name attributes contents children =>
    .openTag name (collectAttributes attributes) ::
      (contentsEvents contents ++ listEvents children ++ [.closeTag])

def contentsEvents : Option (List Dom) → List Event
  | none => []
  | some contents => listEvents contents

def listEvents : List Dom → List Event
  | [] => []
  | node :: rest => node.events ++ listEvents rest

end

def children : Dom → List Dom
  | .document children => children
  | .element _ _ _ children => children
  | _ => []

/-- The events of a top-level node: an element there is the context of the markup and gives only
those of its children. -/
def topEvents : Dom → List Event
  | .element _ _ _ children => listEvents children
  | node => node.events

/-- The events of a parsed document. -/
def documentEvents (document : Dom) : List Event :=
  document.children.flatMap topEvents

end Dom

end HtmlComponent
