import HtmlComponent.Html.Select
import HtmlComponent.Html.Table

/-!
# Rules for formulas and drawings
-/

namespace HtmlComponent.Html.State

/-- Deals with a token by the rules that apply. -/
def byMode (s : State) (token : Token) : Outcome :=
  match s.mode with
  | .inBody => s.body token
  | .inRawText => s.rawText token
  | .inTable => s.table token
  | .inTableText => s.tableText token
  | .inCaption => s.caption token
  | .inColumnGroup => s.columnGroup token
  | .inTableBody => s.tableBody token
  | .inRow => s.row token
  | .inCell => s.cell token
  | .inSelect => s.select token
  | .inSelectInTable => s.selectInTable token
  | .inTemplate => s.template token

/-- Whether a token is text or a start tag that an element of ordinary markup may hold. -/
def entersMarkup (e : Element) (token : Token) : Bool :=
  match token with
  | .text _ _ | .nul => e.isMathText || e.isSvgMarkup || (isNote e && e.isMarkupNote)
  | .startTag tag =>
    (e.isMathText && tag.name != "mglyph" && tag.name != "malignmark") || e.isSvgMarkup ||
      (isNote e && (tag.name == "svg" || e.isMarkupNote))
  | _ => false
where
  isNote (e : Element) : Bool := e.space == .math && e.name == "annotation-xml"

/-- The foreign element whose rules a token falls under. -/
def foreignFor? (s : State) (token : Token) : Option Element :=
  match token, s.foreignElement? with
  | .eof, _ => none
  | _, none => none
  | _, some e => if entersMarkup e token then none else some e

/-- Leaves foreign elements up to one that holds ordinary markup. -/
def leaveForeign (s : State) : State :=
  s.popTo fun e => e.space == .html || e.isMathText || e.isSvgMarkup

def isBreakout (tag : Tag) : Bool :=
  breakoutNames.contains tag.name ||
    (tag.name == "font" && tag.attributes.any fun a => ["color", "face", "size"].contains a.1)

def foreignStartTag (s : State) (e : Element) (tag : Tag) : State :=
  let name := if e.space == .svg then respell svgNames tag.name else tag.name
  s.openForeign e.space name tag

/-- An end tag closes the innermost element of its name, in either case of letters. From the first
ordinary element below the top on, the ordinary rules decide. -/
def foreignEndTag (s : State) (name : String) (isTop : Bool) : List Element → Outcome
  | [] => .done s
  | [_] => .done s
  | e :: rest =>
    if !isTop && e.space == .html then s.byMode (.endTag name)
    else if asciiLowerString e.name == name then .done { s with stack := rest }
    else s.foreignEndTag name false rest

def foreign (s : State) (e : Element) (token : Token) : Outcome :=
  match token with
  | .nul => .done (s.putText (String.ofList [replacement]))
  | .text _ chars => .done (s.putText (String.ofList chars))
  | .comment => .done s.putComment
  | .trivia => .done s
  | .eof => .done s
  | .startTag tag =>
    if isBreakout tag then s.leaveForeign.byMode token else .done (s.foreignStartTag e tag)
  | .endTag name =>
    if ["br", "p"].contains name then s.leaveForeign.byMode token
    else s.foreignEndTag name true s.stack

end HtmlComponent.Html.State
