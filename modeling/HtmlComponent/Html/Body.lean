import HtmlComponent.Html.Formatting

/-!
# Rules for ordinary content
-/

namespace HtmlComponent.Html.State

/-! ## Elements of a document's head -/

/-- Opens a template, whose contents have rules of their own. -/
def openTemplate (s : State) (tag : Tag) : State :=
  let s := (s.openTag tag).markFormatting
  { s with mode := .inTemplate, templateModes := .inTemplate :: s.templateModes }

/-- Leaves the innermost template. -/
def leaveTemplate (s : State) : State :=
  let s := (s.popThrough (·.isNamed "template")).clearFormatting
  { s with templateModes := s.templateModes.tail }.resetMode

def closeTemplate (s : State) : State :=
  if s.templateOpen then (s.closeImplied Element.thoroughlyImpliedNames).leaveTemplate else s

/-- A start tag that the rules for the head deal with. -/
def headTag (s : State) (tag : Tag) : State :=
  if tag.name == "title" then s.openRaw tag (.escapable tag.name)
  else if ["noframes", "style"].contains tag.name then s.openRaw tag (.raw tag.name)
  else if tag.name == "script" then s.openRaw tag .script
  else if tag.name == "template" then s.openTemplate tag
  else s.putTag tag

/-! ## Start tags -/

/-- Starts an item of a list, which ends the item before it. -/
def openItem (s : State) (tag : Tag) (siblings : List String) : State :=
  let bound := s.stack.find? fun e =>
    e.isOneOf siblings || (e.isSpecial && !e.isOneOf ["address", "div", "p"])
  let s := match bound with
    | some e => if e.isOneOf siblings then s.closeNamed e.name else s
    | none => s
  s.closeParagraph.openTag tag

def openForm (s : State) (tag : Tag) : State :=
  if s.form.isSome && !s.templateOpen then s
  else
    let inTemplate := s.templateOpen
    let (e, s) := s.closeParagraph.openElement .html tag.name (Space.html.attributes tag.attributes)
    if inTemplate then s else { s with form := some e.id }

/-- A link ends the link that it stands in. -/
def openLink (s : State) (tag : Tag) : State :=
  let s := match s.liveFormatting.find? fun entry => entry.2.name == "a" with
    | some (id, _) => ((s.closeFormatting "a").removeFormatting id).close id
    | none => s
  s.reopenFormatting.openFormatting tag

def openSelect (s : State) (tag : Tag) : State :=
  let inTable := [Mode.inTable, .inCaption, .inTableBody, .inRow, .inCell].contains s.mode
  (s.reopenFormatting.openTag tag).withMode (if inTable then .inSelectInTable else .inSelect)

/-- Starts a formula or a drawing. -/
def openForeign (s : State) (space : Space) (name : String) (tag : Tag) : State :=
  if tag.selfClosing then (s.putElement space name (space.attributes tag.attributes)).2
  else (s.openElement space name (space.attributes tag.attributes)).2

def bodyStartTag (s : State) (tag : Tag) : State :=
  let name := tag.name
  if headNames.contains name then s.headTag tag
  else if ["html", "body", "frameset"].contains name then s
  else if blockNames.contains name then s.closeParagraph.openTag tag
  else if headingNames.contains name then
    (s.closeParagraph.popIf (·.isOneOf headingNames)).openTag tag
  else if ["pre", "listing"].contains name then
    { s.closeParagraph.openTag tag with skipLineFeed := true }
  else if name == "form" then s.openForm tag
  else if name == "li" then s.openItem tag ["li"]
  else if ["dd", "dt"].contains name then s.openItem tag ["dd", "dt"]
  else if name == "plaintext" then { s.closeParagraph.openTag tag with lexer := .plain }
  else if name == "button" then
    let s := if s.inScope Element.endsScope "button" then s.closeNamed "button" else s
    s.reopenFormatting.openTag tag
  else if name == "a" then s.openLink tag
  else if formattingNames.contains name then s.reopenFormatting.openFormatting tag
  else if name == "nobr" then
    let s := s.reopenFormatting
    let s := if s.inScope Element.endsScope "nobr" then (s.closeFormatting "nobr").reopenFormatting
      else s
    s.openFormatting tag
  else if ["applet", "marquee", "object"].contains name then
    (s.reopenFormatting.openTag tag).markFormatting
  else if name == "table" then (s.closeParagraph.openTag tag).withMode .inTable
  else if ["area", "br", "embed", "img", "keygen", "wbr", "input"].contains name then
    s.reopenFormatting.putTag tag
  else if ["param", "source", "track"].contains name then s.putTag tag
  else if name == "hr" then s.closeParagraph.putTag tag
  else if name == "image" then s.reopenFormatting.putTag { tag with name := "img" }
  else if name == "textarea" then
    { s.openRaw tag (.escapable name) with skipLineFeed := true }
  else if name == "xmp" then s.closeParagraph.reopenFormatting.openRaw tag (.raw name)
  else if ["iframe", "noembed", "noscript"].contains name then s.openRaw tag (.raw name)
  else if name == "select" then s.openSelect tag
  else if ["optgroup", "option"].contains name then
    (s.popIf (·.isNamed "option")).reopenFormatting.openTag tag
  else if ["rb", "rtc"].contains name then
    let s := if s.inScope Element.endsScope "ruby" then s.closeImplied Element.impliedNames else s
    s.openTag tag
  else if ["rp", "rt"].contains name then
    let s := if s.inScope Element.endsScope "ruby" then
      s.closeImplied (Element.impliedNames.filter (· != "rtc")) else s
    s.openTag tag
  else if name == "math" then s.openForeign .math name tag
  else if name == "svg" then s.openForeign .svg name tag
  else if misplacedNames.contains name then s
  else s.reopenFormatting.openTag tag

/-! ## End tags -/

def closeForm (s : State) : State :=
  if s.templateOpen then
    if s.inScope Element.endsScope "form" then s.closeNamed "form" else s
  else
    match s.form with
    | none => s
    | some id =>
      let s := { s with form := none }
      if searchScope Element.endsScope (·.id == id) s.stack then
        (s.closeImplied Element.impliedNames).close id
      else s

def closeHeading (s : State) : State :=
  if searchScope Element.endsScope (·.isOneOf headingNames) s.stack then
    (s.closeImplied Element.impliedNames).popThrough (·.isOneOf headingNames)
  else s

/-- Closes the named element if it is open within the scope. -/
def closeInScope (s : State) (ends : Element → Bool) (name : String) : State :=
  if s.inScope ends name then s.closeNamed name else s

def bodyEndTag (s : State) (name : String) : State :=
  if name == "template" then s.closeTemplate
  else if ["body", "html"].contains name then s
  else if closingBlockNames.contains name then s.closeInScope Element.endsScope name
  else if name == "form" then s.closeForm
  else if name == "p" then
    -- a paragraph that was never opened is empty
    let s := if s.inScope Element.endsButtonScope "p" then s else s.openMissing "p"
    s.closeNamed "p"
  else if name == "li" then s.closeInScope Element.endsListScope name
  else if ["dd", "dt"].contains name then s.closeInScope Element.endsScope name
  else if headingNames.contains name then s.closeHeading
  else if ["a", "nobr"].contains name || formattingNames.contains name then s.closeFormatting name
  else if ["applet", "marquee", "object"].contains name then
    if s.inScope Element.endsScope name then (s.closeNamed name).clearFormatting else s
  else if name == "br" then s.reopenFormatting.putTag ⟨name, [], false⟩
  else s.closeOrdinary name

/-! ## All tokens -/

/-- The markup ends: templates that are still open are closed one after another. -/
def endOfMarkup (s : State) : Outcome :=
  if s.templateOpen then .again s.leaveTemplate else .done s

def body (s : State) : Token → Outcome
  | .startTag tag => .done (s.bodyStartTag tag)
  | .endTag name => .done (s.bodyEndTag name)
  | .text _ chars => .done (s.reopenFormatting.putText (String.ofList chars))
  | .comment => .done s.putComment
  | .nul => .done s
  | .trivia => .done s
  | .eof => s.endOfMarkup

/-- Deals with a token as ordinary content that may not stand in a table. -/
def fosterBody (s : State) (token : Token) : Outcome :=
  match { s with foster := true }.body token with
  | .done s => .done { s with foster := false }
  | .again s => .again { s with foster := false }

/-- The rules directly inside a template: the first tag decides which rules go on. -/
def template (s : State) (token : Token) : Outcome :=
  match token with
  | .text _ _ => s.body token
  | .comment => s.body token
  | .startTag tag =>
    let name := tag.name
    if headNames.contains name then .done (s.headTag tag)
    else if ["caption", "colgroup", "tbody", "tfoot", "thead"].contains name then
      .again (s.setTemplateMode .inTable)
    else if name == "col" then .again (s.setTemplateMode .inColumnGroup)
    else if name == "tr" then .again (s.setTemplateMode .inTableBody)
    else if ["td", "th"].contains name then .again (s.setTemplateMode .inRow)
    else .again (s.setTemplateMode .inBody)
  | .endTag name => .done (if name == "template" then s.closeTemplate else s)
  | .nul => .done s
  | .trivia => .done s
  | .eof => s.endOfMarkup

/-- The rules for raw text, which only the end tag of its element ends. -/
def rawText (s : State) : Token → Outcome
  | .text _ chars => .done (s.putText (String.ofList chars))
  | .endTag _ => .done { s.pop with mode := s.returnMode, lexer := .data }
  | .eof => .again (s.pop.withMode s.returnMode)
  | _ => .done s

end HtmlComponent.Html.State
