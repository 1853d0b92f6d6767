import HtmlComponent.Html.Foreign

/-!
# Parsing markup

Markup is parsed as the contents of a template, so no document is made up around it and the parts of
a table may stand alone.
-/

namespace HtmlComponent.Html

namespace State

/-- Deals with a token, by new rules as often as they change. The number of changes is bounded. -/
def process : Nat → State → Token → State
  | 0, s, _ => s
  | fuel + 1, s, token =>
    let outcome := match s.foreignFor? token with
      | some e => s.foreign e token
      | none => s.byMode token
    match outcome with
    | .done s => s
    | .again s => s.process fuel token

/-- Each change of rules closes an element or follows one that does, a few apart. -/
def processFully (s : State) (token : Token) : State :=
  s.process (4 * s.stack.length + 16) token

def dropLineFeed : List Char → List Char
  | '\n' :: rest => rest
  | chars => chars

/-- Takes the next token. -/
def feed (s : State) (token : Token) : State :=
  let skip := s.skipLineFeed
  let s := { s with skipLineFeed := false }
  match token with
  | .trivia => s
  | .text blank chars =>
    let chars := if skip then dropLineFeed chars else chars
    if chars.isEmpty then s else s.processFully (.text blank chars)
  | token => s.processFully token

/-- Reads on to the end of the markup. Every round takes at least one character off it. -/
def run : Nat → State → List Char → State
  | 0, s, _ => s
  | fuel + 1, s, markup =>
    match markup with
    | [] => s
    | _ :: _ =>
      let (tokens, rest) := Lexer.scan s.lexer s.foreignElement?.isSome markup
      run fuel (tokens.foldl feed s) rest

end State

/-- The tree of a piece of markup: a document with one element, whose children are the markup's. -/
def parse (markup : String) : Dom :=
  let chars := Lexer.prepare markup
  let s := (State.initial.run chars.length chars).feed .eof
  .document [s.store.toDom 0]

end HtmlComponent.Html
