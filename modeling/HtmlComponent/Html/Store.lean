import HtmlComponent.Html.Element

/-!
# The tree under construction

Nodes are numbered as they are made. While markup is read a node may still move, so each one knows
its parent and its children by number. At the end the numbers are resolved into a tree.
-/

namespace HtmlComponent.Html

inductive Content where
  | fragment
  | comment
  | text (value : String)
  | element (e : Element)

structure Item where
  parent : Option NodeId
  children : Array NodeId
  content : Content

structure Store where
  items : Array Item

namespace Store

/-- Adds a node that has no place yet. -/
def create (s : Store) (content : Content) : NodeId × Store :=
  (s.items.size, ⟨s.items.push ⟨none, #[], content⟩⟩)

/-- Adds an element that has no place yet, with a place for the contents of a template. -/
def createElement (s : Store) (space : Space) (name : String) (attributes : List DomAttribute) :
    Element × Store :=
  if space == .html && name == "template" then
    let (contents, s) := s.create .fragment
    let e : Element := ⟨s.items.size, space, name, attributes, some contents⟩
    (e, (s.create (.element e)).2)
  else
    let e : Element := ⟨s.items.size, space, name, attributes, none⟩
    (e, (s.create (.element e)).2)

def parent? (s : Store) (id : NodeId) : Option NodeId :=
  (s.items[id]?).bind (·.parent)

def children (s : Store) (id : NodeId) : Array NodeId :=
  match s.items[id]? with
  | some item => item.children
  | none => #[]

def setParent (s : Store) (parent : Option NodeId) (id : NodeId) : Store :=
  ⟨s.items.modify id fun item => { item with parent := parent }⟩

def setChildren (s : Store) (id : NodeId) (children : Array NodeId) : Store :=
  ⟨s.items.modify id fun item => { item with children := children }⟩

/-- Takes a node from its parent. -/
def detach (s : Store) (id : NodeId) : Store :=
  match s.parent? id with
  | none => s
  | some parent => (s.setChildren parent ((s.children parent).filter (· != id))).setParent none id

/-- Makes a node the last child of another. -/
def append (s : Store) (parent id : NodeId) : Store :=
  (⟨s.items.modify parent fun item => { item with children := item.children.push id }⟩ :
    Store).setParent (some parent) id

/-- Puts a node before a child of a parent. -/
def insertBefore (s : Store) (parent sibling id : NodeId) : Store :=
  let children := s.children parent
  let before := children.toList.takeWhile (· != sibling)
  let after := children.toList.drop before.length
  (s.setChildren parent (before ++ id :: after).toArray).setParent (some parent) id

/-- Adds to the end of a text; none if the node is not a text. -/
def extendText? (s : Store) (id : NodeId) (value : String) : Option Store :=
  match s.items[id]? with
  | some ⟨_, _, .text _⟩ =>
    some ⟨s.items.modify id fun item =>
      match item.content with
      | .text old => { item with content := .text (old ++ value) }
      | _ => item⟩
  | _ => none

/-- Adds text after the last child, joining it if that is a text. -/
def appendText (s : Store) (parent : NodeId) (value : String) : Store :=
  match (s.children parent).back?.bind (s.extendText? · value) with
  | some s => s
  | none =>
    let (id, s) := s.create (.text value)
    s.append parent id

/-- Adds text before a child of a parent, joining it to a text that stands there. -/
def insertTextBefore (s : Store) (parent sibling : NodeId) (value : String) : Store :=
  let before := (s.children parent).toList.takeWhile (· != sibling)
  match before.getLast?.bind (s.extendText? · value) with
  | some s => s
  | none =>
    let (id, s) := s.create (.text value)
    s.insertBefore parent sibling id

/-- Moves all children of a node to the end of another. -/
def moveChildren (s : Store) (source target : NodeId) : Store :=
  let moved := s.children source
  let s := s.setChildren source #[]
  let s := s.setChildren target (s.children target ++ moved)
  moved.foldl (fun s id => s.setParent (some target) id) s

/-- Resolves a node, no deeper than `depth`. -/
def resolve (s : Store) : Nat → NodeId → Dom
  | 0, _ => .comment
  | depth + 1, id =>
    match s.items[id]? with
    | none => .comment
    | some item =>
      let children := fun (item : Item) => item.children.toList.map (s.resolve depth)
      match item.content with
      | .fragment => .document (children item)
      | .comment => .comment
      | .text value => .text value
      | .element e =>
        .element e.name e.attributes
          (e.contents.map fun contents => (s.children contents).toList.map (s.resolve depth))
          (children item)

/-- The tree below a node. No branch is longer than the number of nodes. -/
def toDom (s : Store) (id : NodeId) : Dom :=
  s.resolve (s.items.size + 1) id

end Store

end HtmlComponent.Html
