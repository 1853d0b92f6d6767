import HtmlComponent.Proofs.Dom.Attributes
import HtmlComponent.Proofs.Document.Stack

/-!
# The tree of parsed markup

Walking parsed markup and building a document from its events gives the same tree as taking the
markup node by node: an element becomes a tag, a text that is not blank a text, everything else is
passed over. Each part of the walk leaves the builder with the nodes of that part as new children of
its innermost open node, and with the same tags open as before.
-/

namespace HtmlComponent

namespace Dom

/-- The attributes of a tag: each under its qualified name, the first of a repeated name only. -/
def imageAttributes (attributes : List DomAttribute) : Attributes :=
  Attributes.firstOf (attributes.map fun a => (a.qualifiedName, a.value))

mutual

/-- The nodes that stand for a node of parsed markup. -/
def image : Dom → List Node
  | .document children => listImage children
  | .doctype => []
  | .comment => []
  | .processingInstruction => []
  | .text value => if Text.blank value then [] else [.text value]
  | .element name attributes contents children =>
    [.tag (Text.lower name) (imageAttributes attributes)
      (contentsImage contents ++ listImage children)]

def contentsImage : Option (List Dom) → List Node
  | none => []
  | some contents => listImage contents

def listImage : List Dom → List Node
  | [] => []
  | node :: rest => node.image ++ listImage rest

end

/-- The nodes for a top-level node: an element there is the context of the markup and stands for its
children only. -/
def topImage : Dom → List Node
  | .element _ _ _ children => listImage children
  | node => node.image

/-- The nodes for a parsed document. -/
def documentImage (document : Dom) : List Node :=
  document.children.flatMap topImage

/-! ## Events of parsed markup -/

open Document.Builder

theorem collectAttributes_eq_imageAttributes (attributes : List DomAttribute) :
    collectAttributes attributes = imageAttributes attributes := by
  rw [collectAttributes_eq_ofFirstPairs]
  exact Attributes.ofFirstPairs_eq_firstOf _

mutual

theorem adds_events : (dom : Dom) → Adds dom.events dom.image
  | .document children => adds_listEvents children
  | .doctype => .nil
  | .comment => .nil
  | .processingInstruction => .nil
  | .text value => adds_text value
  | .element name attributes contents children => by
    have hchildren := (adds_contentsEvents contents).append (adds_listEvents children)
    rw [events, image, ← collectAttributes_eq_imageAttributes]
    exact hchildren.tag name _

theorem adds_contentsEvents : (contents : Option (List Dom)) →
    Adds (contentsEvents contents) (contentsImage contents)
  | none => .nil
  | some contents => adds_listEvents contents

theorem adds_listEvents : (nodes : List Dom) → Adds (listEvents nodes) (listImage nodes)
  | [] => .nil
  | node :: rest => (adds_events node).append (adds_listEvents rest)

end

theorem adds_topEvents (dom : Dom) : Adds dom.topEvents dom.topImage := by
  cases dom with
  | element name attributes contents children => exact adds_listEvents children
  | _ => exact adds_events _

theorem adds_documentEvents (document : Dom) :
    Adds document.documentEvents document.documentImage := by
  unfold documentEvents documentImage
  induction document.children with
  | nil => exact .nil
  | cons node rest ih =>
    rw [List.flatMap_cons, List.flatMap_cons]
    exact (adds_topEvents node).append ih

/-- Building from the events of parsed markup succeeds with nothing left open, and the tree is the
image of the markup. -/
theorem ofEvents_documentEvents (document : Dom) :
    ∃ b, new.pushAll document.documentEvents = .ok b ∧
      b.stack = [.root document.documentImage] ∧
      Document.ofEvents document.documentEvents = .ok b.finish ∧
      b.finish.root = .root document.documentImage :=
  (adds_documentEvents document).exists_finished

end Dom

end HtmlComponent
