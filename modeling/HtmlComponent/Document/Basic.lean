import HtmlComponent.NameSet
import HtmlComponent.Node

/-!
# Documents

A document is a tree together with the names that its module imports.
-/

namespace HtmlComponent

/-- A document: its tree, the class names it uses and the element names it calls. -/
structure Document where
  root : Node
  styles : NameSet
  elements : NameSet

namespace Document

def toJson (d : Document) : Json :=
  .object [("root", d.root.toJson), ("styles", .strings d.styles.names),
    ("elements", .strings d.elements.names)]

/-- Whether two documents are the same up to the order of attributes and of names. -/
def same (d e : Document) : Bool :=
  d.root.same e.root && d.styles.same e.styles && d.elements.same e.elements

end Document

end HtmlComponent
