import HtmlComponent.Html.Body

/-!
# Rules for tables
-/

namespace HtmlComponent.Html.State

def isHiddenInput (tag : Tag) : Bool :=
  tag.attributes.any fun a => a.1 == "type" && asciiLowerString a.2 == "hidden"

/-- Characters in a table are gathered until it is known whether they are all white space. -/
def tableCharacters (s : State) (token : Token) : Outcome :=
  if s.currentIs (·.isTablePart) then .again { s with returnMode := s.mode, mode := .inTableText }
  else s.fosterBody token

def table (s : State) (token : Token) : Outcome :=
  match token with
  | .text _ _ => s.tableCharacters token
  | .nul => s.tableCharacters token
  | .comment => .done s.putComment
  | .trivia => .done s
  | .eof => s.endOfMarkup
  | .startTag tag =>
    let name := tag.name
    let inTable := s.popTo Element.endsTableScope
    if name == "caption" then .done ((inTable.markFormatting.openTag tag).withMode .inCaption)
    else if name == "colgroup" then .done ((inTable.openTag tag).withMode .inColumnGroup)
    else if name == "col" then .again ((inTable.openMissing "colgroup").withMode .inColumnGroup)
    else if ["tbody", "tfoot", "thead"].contains name then
      .done ((inTable.openTag tag).withMode .inTableBody)
    else if ["td", "th", "tr"].contains name then
      .again ((inTable.openMissing "tbody").withMode .inTableBody)
    else if name == "table" then
      if s.inScope Element.endsTableScope "table" then
        .again (s.popThrough (·.isNamed "table")).resetMode
      else .done s
    else if ["style", "script", "template"].contains name then .done (s.headTag tag)
    else if name == "input" && isHiddenInput tag then .done (s.putTag tag)
    else if name == "form" then
      if !s.templateOpen && s.form.isNone then
        let (e, s) := s.putElement .html name (Space.html.attributes tag.attributes)
        .done { s with form := some e.id }
      else .done s
    else s.fosterBody token
  | .endTag name =>
    if name == "table" then
      if s.inScope Element.endsTableScope "table" then
        .done (s.popThrough (·.isNamed "table")).resetMode
      else .done s
    else if ["body", "caption", "col", "colgroup", "html", "tbody", "td", "tfoot", "th", "thead",
        "tr"].contains name then .done s
    else if name == "template" then .done s.closeTemplate
    else s.fosterBody token

/-- Places the gathered text of a table: before it, unless all is white space. -/
def flushTableText (s : State) : State :=
  let pieces := s.pendingText.reverse
  let s := { s with pendingText := [] }
  if pieces.all (·.1) then pieces.foldl (fun s piece => s.putText piece.2) s
  else
    let place := fun (s : State) (piece : Bool × String) => s.reopenFormatting.putText piece.2
    { pieces.foldl place { s with foster := true } with foster := false }

def tableText (s : State) (token : Token) : Outcome :=
  match token with
  | .text blank chars =>
    .done { s with pendingText := (blank, String.ofList chars) :: s.pendingText }
  | .nul => .done s
  | _ => .again (s.flushTableText.withMode s.returnMode)

/-- Leaves a caption, if one is open. -/
def closeCaption? (s : State) : Option State :=
  if s.inScope Element.endsTableScope "caption" then
    some ((s.closeNamed "caption").clearFormatting.withMode .inTable)
  else none

def caption (s : State) (token : Token) : Outcome :=
  match token with
  | .startTag tag =>
    if ["caption", "col", "colgroup", "tbody", "td", "tfoot", "th", "thead", "tr"].contains
        tag.name then
      match s.closeCaption? with
      | some s => .again s
      | none => .done s
    else s.body token
  | .endTag name =>
    if name == "caption" then .done (s.closeCaption?.getD s)
    else if name == "table" then
      match s.closeCaption? with
      | some s => .again s
      | none => .done s
    else if ["body", "col", "colgroup", "html", "tbody", "td", "tfoot", "th", "thead",
        "tr"].contains name then .done s
    else s.body token
  | _ => s.body token

/-- Leaves a group of columns, if that is the innermost element. -/
def leaveColumnGroup (s : State) : Outcome :=
  if s.currentNamed "colgroup" then .again (s.pop.withMode .inTable) else .done s

def columnGroup (s : State) (token : Token) : Outcome :=
  match token with
  | .text true chars => .done (s.putText (String.ofList chars))
  | .comment => .done s.putComment
  | .eof => s.endOfMarkup
  | .trivia => .done s
  | .startTag tag =>
    if tag.name == "html" then .done s
    else if tag.name == "col" then .done (s.putTag tag)
    else if tag.name == "template" then .done (s.headTag tag)
    else s.leaveColumnGroup
  | .endTag name =>
    if name == "colgroup" then
      .done (if s.currentNamed "colgroup" then s.pop.withMode .inTable else s)
    else if name == "col" then .done s
    else if name == "template" then .done s.closeTemplate
    else s.leaveColumnGroup
  | _ => s.leaveColumnGroup

/-- Ends the rows of a table, when other parts of it follow. -/
def leaveTableBody (s : State) : Outcome :=
  if searchScope Element.endsTableScope (·.isOneOf ["table", "tbody", "tfoot"]) s.stack then
    .again ((s.popTo Element.isTableBodyContext).pop.withMode .inTable)
  else .done s

def tableBody (s : State) (token : Token) : Outcome :=
  match token with
  | .startTag tag =>
    let name := tag.name
    let inBody := s.popTo Element.isTableBodyContext
    if name == "tr" then .done ((inBody.openTag tag).withMode .inRow)
    else if ["th", "td"].contains name then .again ((inBody.openMissing "tr").withMode .inRow)
    else if ["caption", "col", "colgroup", "tbody", "tfoot", "thead"].contains name then
      s.leaveTableBody
    else s.table token
  | .endTag name =>
    if ["tbody", "tfoot", "thead"].contains name then
      if s.inScope Element.endsTableScope name then
        .done ((s.popTo Element.isTableBodyContext).pop.withMode .inTable)
      else .done s
    else if name == "table" then s.leaveTableBody
    else if ["body", "caption", "col", "colgroup", "html", "td", "th", "tr"].contains name then
      .done s
    else s.table token
  | _ => s.table token

/-- Ends a row, if one is open. -/
def leaveRow? (s : State) : Option State :=
  if s.inScope Element.endsTableScope "tr" then
    some ((s.popTo Element.isRowContext).pop.withMode .inTableBody)
  else none

def row (s : State) (token : Token) : Outcome :=
  let leave : Outcome := match s.leaveRow? with
    | some s => .again s
    | none => .done s
  match token with
  | .startTag tag =>
    let name := tag.name
    if ["th", "td"].contains name then
      .done (((s.popTo Element.isRowContext).openTag tag).withMode .inCell).markFormatting
    else if ["caption", "col", "colgroup", "tbody", "tfoot", "thead", "tr"].contains name then leave
    else s.table token
  | .endTag name =>
    if name == "tr" then .done (s.leaveRow?.getD s)
    else if name == "table" then leave
    else if ["tbody", "tfoot", "thead"].contains name then
      if s.inScope Element.endsTableScope name then leave else .done s
    else if ["body", "caption", "col", "colgroup", "html", "td", "th"].contains name then .done s
    else s.table token
  | _ => s.table token

/-- Ends the open cell. -/
def closeCell (s : State) : State :=
  let s := (s.closeImplied Element.impliedNames).popThrough (·.isOneOf ["td", "th"])
  s.clearFormatting.withMode .inRow

def cell (s : State) (token : Token) : Outcome :=
  match token with
  | .startTag tag =>
    if ["caption", "col", "colgroup", "tbody", "td", "tfoot", "th", "thead", "tr"].contains
        tag.name then
      if searchScope Element.endsTableScope (·.isOneOf ["td", "th"]) s.stack then .again s.closeCell
      else .done s
    else s.body token
  | .endTag name =>
    if ["td", "th"].contains name then
      if s.inScope Element.endsTableScope name then
        .done ((s.closeNamed name).clearFormatting.withMode .inRow)
      else .done s
    else if ["body", "caption", "col", "colgroup", "html"].contains name then .done s
    else if ["table", "tbody", "tfoot", "thead", "tr"].contains name then
      if s.inScope Element.endsTableScope name then .again s.closeCell else .done s
    else s.body token
  | _ => s.body token

end HtmlComponent.Html.State
