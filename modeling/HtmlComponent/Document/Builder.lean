import HtmlComponent.Document.Basic
import HtmlComponent.Error
import HtmlComponent.Event
import HtmlComponent.Text.Blank
import HtmlComponent.Text.Casing

/-!
# Building documents

Events are folded into a tree. The builder keeps the nodes that are still open, the innermost first
and the root last, and collects the names of elements and of styles as tags open.
-/

namespace HtmlComponent.Document

structure Builder where
  stack : List Node
  styles : NameSet
  elements : NameSet

namespace Builder

/-- Every module imports these. -/
def seededElements : List String :=
  ["cpt", "shadow"]

def new : Builder :=
  ⟨[.root []], .empty, .ofList seededElements⟩

/-- The style names of a tag: the words of its class attribute. -/
def classTokens (attributes : Attributes) : List String :=
  match attributes.get? "class" with
  | none => []
  | some value => Text.words value

def openTag (b : Builder) (name : String) (attributes : Attributes) : Builder :=
  ⟨.tag (Text.lower name) attributes [] :: b.stack, b.styles.insertMany (classTokens attributes),
    b.elements.insert (Text.lower name)⟩

/-- Adds a text to the innermost open node. A blank text is dropped, any other is kept whole. -/
def text (b : Builder) (value : String) : Builder :=
  if Text.blank value then b
  else
    match b.stack with
    | [] => b
    | top :: rest => { b with stack := top.addChild (.text value) :: rest }

/-- Closes the innermost tag. -/
def closeTag (b : Builder) : Except Error Builder :=
  match b.stack with
  | top :: parent :: rest => .ok { b with stack := parent.addChild top :: rest }
  | _ => .error .unbalancedClose

/-- Takes one event. A builder that refuses it is not changed. -/
def push (b : Builder) : Event → Except Error Builder
  | .openTag name attributes => .ok (b.openTag name attributes)
  | .text value => .ok (b.text value)
  | .closeTag => b.closeTag

/-- Takes one event and goes on from the same state if it is refused. -/
def pushOrKeep (b : Builder) (event : Event) : Builder :=
  match b.push event with
  | .ok b' => b'
  | .error _ => b

def pushAll (b : Builder) : List Event → Except Error Builder
  | [] => .ok b
  | event :: rest =>
    match b.push event with
    | .error e => .error e
    | .ok b' => b'.pushAll rest

/-- Closes all open tags, innermost first. -/
def closeAll : List Node → Node
  | [] => .root []
  | top :: rest => rest.foldl (fun child parent => parent.addChild child) top

def finish (b : Builder) : Document :=
  ⟨closeAll b.stack, b.styles, b.elements⟩

end Builder

/-- The document that the events describe. -/
def ofEvents (events : List Event) : Except Error Document :=
  match Builder.new.pushAll events with
  | .error e => .error e
  | .ok b => .ok b.finish

end HtmlComponent.Document
