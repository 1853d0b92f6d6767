import HtmlComponent.Html.Lexer
import HtmlComponent.Html.Store

/-!
# The state of tree construction

What has been read so far: the tree, the elements that are still open, innermost first, the
formatting that is in force, and the rules that apply next. The lowest open element stands for a
template around the whole markup.
-/

namespace HtmlComponent.Html

/-- Which rules apply to the next token. -/
inductive Mode where
  | inBody
  | inRawText
  | inTable
  | inTableText
  | inCaption
  | inColumnGroup
  | inTableBody
  | inRow
  | inCell
  | inSelect
  | inSelectInTable
  | inTemplate
  deriving DecidableEq

/-- Formatting in force: an element with the tag it came from, or the bound of a part of the markup
that formatting does not cross. -/
inductive Formatting where
  | marker
  | element (id : NodeId) (tag : Tag)

structure State where
  store : Store
  mode : Mode
  lexer : Lexer.Mode
  /-- The open elements, innermost first. -/
  stack : List Element
  /-- The formatting in force, latest first. -/
  formatting : List Formatting
  /-- The rules for the contents of the open templates, innermost first. -/
  templateModes : List Mode
  /-- The rules to go back to after raw text or the text of a table. -/
  returnMode : Mode
  /-- Text of a table that is still to be placed, latest first. -/
  pendingText : List (Bool × String)
  /-- The form that is being filled. -/
  form : Option NodeId
  /-- Whether a line feed that comes next is dropped. -/
  skipLineFeed : Bool
  /-- Whether what may not stand in a table is put before it. -/
  foster : Bool

/-- What a rule leads to: the token is dealt with, or the rules that now apply take it. -/
inductive Outcome where
  | done (s : State)
  | again (s : State)

namespace State

/-- The state before any markup: one open element in an empty tree. -/
def initial : State :=
  let root : Element := ⟨0, .html, "html", [], none⟩
  { store := ⟨#[⟨none, #[], .element root⟩]⟩
    mode := .inTemplate
    lexer := .data
    stack := [root]
    formatting := []
    templateModes := [.inTemplate]
    returnMode := .inTemplate
    pendingText := []
    form := none
    skipLineFeed := false
    foster := false }

/-! ## Looking at the open elements -/

def currentIs (s : State) (p : Element → Bool) : Bool :=
  match s.stack with
  | [] => false
  | e :: _ => p e

def currentNamed (s : State) (name : String) : Bool :=
  s.currentIs (·.isNamed name)

/-- Whether a wanted element is open, with none before it that ends the search. -/
def searchScope (ends wanted : Element → Bool) : List Element → Bool
  | [] => false
  | e :: rest => wanted e || (!ends e && searchScope ends wanted rest)

def inScope (s : State) (ends : Element → Bool) (name : String) : Bool :=
  searchScope ends (·.isNamed name) s.stack

def templateOpen (s : State) : Bool :=
  s.stack.any (·.isNamed "template")

/-- The innermost element that decides whether markup is foreign. The lowest one stands for a
template. -/
def foreignElement? (s : State) : Option Element :=
  match s.stack with
  | e :: _ :: _ => if e.space == .html then none else some e
  | _ => none

/-! ## Closing elements -/

def pop (s : State) : State :=
  { s with stack := s.stack.tail }

/-- Drops elements up to and with the first that is wanted. -/
def dropThrough (wanted : Element → Bool) : List Element → List Element
  | [] => []
  | e :: rest => if wanted e then rest else dropThrough wanted rest

/-- Closes elements up to and with the first that is wanted. -/
def popThrough (s : State) (wanted : Element → Bool) : State :=
  { s with stack := dropThrough wanted s.stack }

/-- Closes elements until the innermost one is wanted. -/
def popTo (s : State) (wanted : Element → Bool) : State :=
  { s with stack := s.stack.dropWhile fun e => !wanted e }

def popIf (s : State) (p : Element → Bool) : State :=
  if s.currentIs p then s.pop else s

/-- Closes the innermost elements whose end tag may be left out. -/
def closeImplied (s : State) (names : List String) : State :=
  { s with stack := s.stack.dropWhile (·.isOneOf names) }

/-- Closes the named element and, before it, those whose end tag may be left out. -/
def closeNamed (s : State) (name : String) : State :=
  (s.closeImplied (Element.impliedNames.filter (· != name))).popThrough (·.isNamed name)

/-- Closes a paragraph that is open here. -/
def closeParagraph (s : State) : State :=
  if s.inScope Element.endsButtonScope "p" then s.closeNamed "p" else s

/-- Closes one particular element and nothing else. -/
def close (s : State) (id : NodeId) : State :=
  { s with stack := s.stack.filter (·.id != id) }

/-! ## Placing nodes -/

/-- A place in the tree. -/
inductive Place where
  | lastChild (parent : NodeId)
  | before (parent sibling : NodeId)

/-- The place before the innermost table, or in a template that is open within it. -/
def fosterPlace (store : Store) : List Element → Place
  | [] => .lastChild 0
  | e :: rest =>
    if e.isNamed "template" then .lastChild (e.contents.getD e.id)
    else if e.isNamed "table" then
      match store.parent? e.id with
      | some parent => .before parent e.id
      | none => .lastChild ((rest.head?.map (·.id)).getD 0)
    else fosterPlace store rest

/-- The place for a node that belongs in an element. -/
def placeIn (s : State) (target : Element) : Place :=
  if s.foster && target.isTablePart then fosterPlace s.store s.stack
  else .lastChild (if target.isNamed "template" then target.contents.getD target.id else target.id)

/-- The place for the next node. -/
def place (s : State) : Place :=
  match s.stack with
  | [] => .lastChild 0
  | e :: _ => s.placeIn e

def putNode (s : State) (place : Place) (id : NodeId) : State :=
  match place with
  | .lastChild parent => { s with store := s.store.append parent id }
  | .before parent sibling => { s with store := s.store.insertBefore parent sibling id }

def putText (s : State) (value : String) : State :=
  match s.place with
  | .lastChild parent => { s with store := s.store.appendText parent value }
  | .before parent sibling => { s with store := s.store.insertTextBefore parent sibling value }

def putComment (s : State) : State :=
  let (id, store) := s.store.create .comment
  { s with store := store }.putNode s.place id

/-- Puts an element in its place without opening it. -/
def putElement (s : State) (space : Space) (name : String) (attributes : List DomAttribute) :
    Element × State :=
  let (e, store) := s.store.createElement space name attributes
  (e, { s with store := store }.putNode s.place e.id)

/-- Puts an element in its place and opens it. -/
def openElement (s : State) (space : Space) (name : String) (attributes : List DomAttribute) :
    Element × State :=
  let (e, s) := s.putElement space name attributes
  (e, { s with stack := e :: s.stack })

/-- Opens the element of a tag. -/
def openTag (s : State) (tag : Tag) : State :=
  (s.openElement .html tag.name (Space.html.attributes tag.attributes)).2

/-- Puts the element of a tag that has no contents. -/
def putTag (s : State) (tag : Tag) : State :=
  (s.putElement .html tag.name (Space.html.attributes tag.attributes)).2

/-- Opens an element that no tag asks for. -/
def openMissing (s : State) (name : String) : State :=
  (s.openElement .html name []).2

/-! ## Changing the rules -/

def withMode (s : State) (mode : Mode) : State :=
  { s with mode := mode }

/-- Opens an element whose text is read by other rules. -/
def openRaw (s : State) (tag : Tag) (lexer : Lexer.Mode) : State :=
  { s.openTag tag with lexer := lexer, returnMode := s.mode, mode := .inRawText }

/-- The rules for a list of choices, by the elements around it. -/
def selectMode : List Element → Mode
  | [] => .inSelect
  | e :: rest =>
    if e.isNamed "template" then .inSelect
    else if e.isNamed "table" then .inSelectInTable
    else selectMode rest

/-- The rules that follow from the open elements. -/
def modeOf (templateMode : Mode) : List Element → Mode
  | [] => .inBody
  | [_] => templateMode
  | e :: rest =>
    if e.isNamed "select" then selectMode rest
    else if e.isOneOf ["td", "th"] then .inCell
    else if e.isNamed "tr" then .inRow
    else if e.isOneOf ["tbody", "thead", "tfoot"] then .inTableBody
    else if e.isNamed "caption" then .inCaption
    else if e.isNamed "colgroup" then .inColumnGroup
    else if e.isNamed "table" then .inTable
    else if e.isNamed "template" then templateMode
    else modeOf templateMode rest

/-- Goes back to the rules that follow from the open elements. -/
def resetMode (s : State) : State :=
  s.withMode (modeOf (s.templateModes.headD .inBody) s.stack)

def setTemplateMode (s : State) (mode : Mode) : State :=
  { s with templateModes := mode :: s.templateModes.tail, mode := mode }

end State

end HtmlComponent.Html
