import HtmlComponent.Html.Body

/-!
# Rules for lists of choices
-/

namespace HtmlComponent.Html.State

/-- Ends the list of choices, if one is open. -/
def closeSelect? (s : State) : Option State :=
  if s.inScope Element.endsSelectScope "select" then
    some (s.popThrough (·.isNamed "select")).resetMode
  else none

def select (s : State) (token : Token) : Outcome :=
  match token with
  | .nul => .done s
  | .trivia => .done s
  | .text _ chars => .done (s.putText (String.ofList chars))
  | .comment => .done s.putComment
  | .eof => s.endOfMarkup
  | .startTag tag =>
    let name := tag.name
    let noOption := s.popIf (·.isNamed "option")
    let noGroup := noOption.popIf (·.isNamed "optgroup")
    if name == "option" then .done (noOption.openTag tag)
    else if name == "optgroup" then .done (noGroup.openTag tag)
    else if name == "hr" then .done (noGroup.putTag tag)
    else if name == "select" then .done (s.closeSelect?.getD s)
    else if ["input", "keygen", "textarea"].contains name then
      match s.closeSelect? with
      | some s => .again s
      | none => .done s
    else if ["script", "template"].contains name then .done (s.headTag tag)
    else .done s
  | .endTag name =>
    if name == "optgroup" then
      let s := match s.stack with
        | e :: f :: _ => if e.isNamed "option" && f.isNamed "optgroup" then s.pop else s
        | _ => s
      .done (s.popIf (·.isNamed "optgroup"))
    else if name == "option" then .done (s.popIf (·.isNamed "option"))
    else if name == "select" then .done (s.closeSelect?.getD s)
    else if name == "template" then .done s.closeTemplate
    else .done s

/-- A list of choices in a table ends where a part of the table follows. -/
def selectInTable (s : State) (token : Token) : Outcome :=
  let parts := ["caption", "table", "tbody", "tfoot", "thead", "tr", "td", "th"]
  match token with
  | .startTag tag =>
    if parts.contains tag.name then .again (s.popThrough (·.isNamed "select")).resetMode
    else s.select token
  | .endTag name =>
    if parts.contains name then
      if s.inScope Element.endsTableScope name then
        .again (s.popThrough (·.isNamed "select")).resetMode
      else .done s
    else s.select token
  | _ => s.select token

end HtmlComponent.Html.State
