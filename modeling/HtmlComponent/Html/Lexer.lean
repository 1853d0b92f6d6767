import HtmlComponent.Html.Reference

/-!
# Cutting markup into tokens

One step takes a run of text, or one tag, comment or declaration, off the front of the markup. How
text is read depends on the element that it stands in.
-/

namespace HtmlComponent.Html.Lexer

/-- How the text that comes next is to be read. -/
inductive Mode where
  /-- Tags, comments and references all count. -/
  | data
  /-- Only references and the end tag of the element count. -/
  | escapable (name : String)
  /-- Only the end tag of the element counts. -/
  | raw (name : String)
  /-- As raw text, but an end tag inside a commented script within it does not count. -/
  | script
  /-- Nothing counts any more. -/
  | plain

/-! ## Tags -/

/-- The name of a tag or attribute, from what is written. -/
def nameOf (s : List Char) : String :=
  String.ofList (s.map fun c => replaceNul (asciiLower c))

/-- The attributes of a tag up to its end, and whether it closes itself; none if the markup ends
first. -/
def attributes : Nat → List (String × String) → List Char →
    Option (List (String × String) × Bool × List Char)
  | 0, _, _ => none
  | fuel + 1, found, s =>
    match s.dropWhile isSpace with
    | [] => none
    | '>' :: rest => some (found.reverse, false, rest)
    | '/' :: '>' :: rest => some (found.reverse, true, rest)
    | '/' :: rest => attributes fuel found rest
    | c :: rest =>
      let inName := fun c => !(isSpace c || c == '/' || c == '=' || c == '>')
      let name := nameOf (c :: rest.takeWhile inName)
      let add := fun value : String =>
        if found.any fun a => a.1 == name then found else (name, value) :: found
      match (rest.dropWhile inName).dropWhile isSpace with
      | '=' :: afterSign =>
        match afterSign.dropWhile isSpace with
        | '"' :: quoted =>
          attributes fuel (add (Reference.attributeValue (quoted.takeWhile (· != '"'))))
            ((quoted.dropWhile (· != '"')).drop 1)
        | '\'' :: quoted =>
          attributes fuel (add (Reference.attributeValue (quoted.takeWhile (· != '\''))))
            ((quoted.dropWhile (· != '\'')).drop 1)
        | bare =>
          let inValue := fun c => !(isSpace c || c == '>')
          attributes fuel (add (Reference.attributeValue (bare.takeWhile inValue)))
            (bare.dropWhile inValue)
      | later => attributes fuel (add "") later

/-- Reads a tag from its name on. -/
def tag? (s : List Char) : Option (Tag × List Char) :=
  let inName := fun c => !(isSpace c || c == '/' || c == '>')
  match attributes (s.length + 1) [] (s.dropWhile inName) with
  | none => none
  | some (found, selfClosing, rest) =>
    some (⟨nameOf (s.takeWhile inName), found, selfClosing⟩, rest)

def startTag (s : List Char) : List Token × List Char :=
  match tag? s with
  | none => ([], [])
  | some (tag, rest) => ([.startTag tag], rest)

def endTag (s : List Char) : List Token × List Char :=
  match tag? s with
  | none => ([], [])
  | some (tag, rest) => ([.endTag tag.name], rest)

/-! ## Comments and declarations -/

/-- What follows the first closing angle bracket. -/
def afterBracket (s : List Char) : List Char :=
  (s.dropWhile (· != '>')).drop 1

/-- What follows the end of a comment. -/
def afterComment : List Char → List Char
  | [] => []
  | '-' :: '-' :: '>' :: rest => rest
  | '-' :: '-' :: '!' :: '>' :: rest => rest
  | _ :: rest => afterComment rest

/-- Splits at the end of a section of plain characters. -/
def sectionEnd : List Char → List Char × List Char
  | [] => ([], [])
  | ']' :: ']' :: '>' :: rest => ([], rest)
  | c :: rest =>
    let (inside, after) := sectionEnd rest
    (c :: inside, after)

/-- Reads what follows `<!`. Sections of plain characters stand only in foreign elements. -/
def declaration (foreign : Bool) (s : List Char) : List Token × List Char :=
  match s with
  | '-' :: '-' :: '>' :: rest => ([.comment], rest)
  | '-' :: '-' :: '-' :: '>' :: rest => ([.comment], rest)
  | '-' :: '-' :: rest => ([.comment], afterComment rest)
  | _ =>
    match afterIgnoringCase? "doctype".toList s with
    | some rest => ([.trivia], afterBracket rest)
    | none =>
      match if foreign then Reference.after? "[CDATA[".toList s else none with
      | some rest =>
        let (inside, after) := sectionEnd rest
        (textTokens (inside.map fun c => if c == '\x00' then .nul else .char c), after)
      | none => ([.comment], afterBracket s)

/-- Reads what follows `<`. -/
def markup (foreign : Bool) (s : List Char) : List Token × List Char :=
  match s with
  | [] => ([.text false ['<']], [])
  | ['/'] => ([.text false ['<', '/']], [])
  | '!' :: rest => declaration foreign rest
  | '?' :: rest => ([.comment], afterBracket rest)
  | '/' :: '>' :: rest => ([.trivia], rest)
  | '/' :: c :: rest =>
    if isLetter c then endTag (c :: rest) else ([.comment], afterBracket (c :: rest))
  | c :: rest => if isLetter c then startTag (c :: rest) else ([.text false ['<']], c :: rest)

/-! ## Raw text -/

/-- Whether the end tag of the named element starts here. -/
def atEndTag (name : String) (s : List Char) : Bool :=
  match afterIgnoringCase? ('<' :: '/' :: name.toList) s with
  | some (c :: _) => isSpace c || c == '/' || c == '>'
  | _ => false

/-- Splits before the end tag of the named element. -/
def rawText (name : String) : List Char → List Char × List Char
  | [] => ([], [])
  | c :: cs =>
    if atEndTag name (c :: cs) then ([], c :: cs)
    else
      let (inside, rest) := rawText name cs
      (c :: inside, rest)

/-- Where in a script the reader is. A script that is started in a comment hides the end tag of the
outer one. Dashes are counted up to two, since more of them end a comment as well. -/
inductive ScriptState where
  | outside
  /-- After `<`. -/
  | angle
  /-- After `<!`. -/
  | bang
  /-- After `<!-`. -/
  | dash
  /-- In a comment, after some dashes. -/
  | comment (dashes : Nat)
  /-- In a comment, after `<`. -/
  | commentAngle
  /-- In a comment, in the name of a start tag, its letters last to first. -/
  | startName (letters : List Char)
  /-- In a script in a comment, after some dashes. -/
  | inner (dashes : Nat)
  /-- In a script in a comment, after `<`. -/
  | innerAngle
  /-- In a script in a comment, in the name of an end tag, its letters last to first. -/
  | endName (letters : List Char)

namespace ScriptState

/-- Whether an end tag counts here. -/
def closable : ScriptState → Bool
  | .inner _ => false
  | .innerAngle => false
  | .endName _ => false
  | _ => true

def stepOutside (c : Char) : ScriptState :=
  if c == '<' then .angle else .outside

def stepComment (dashes : Nat) (c : Char) : ScriptState :=
  if c == '-' then .comment (min 2 (dashes + 1))
  else if c == '<' then .commentAngle
  else if c == '>' && dashes == 2 then .outside
  else .comment 0

def stepInner (dashes : Nat) (c : Char) : ScriptState :=
  if c == '-' then .inner (min 2 (dashes + 1))
  else if c == '<' then .innerAngle
  else if c == '>' && dashes == 2 then .outside
  else .inner 0

def endsName (c : Char) : Bool :=
  isSpace c || c == '/' || c == '>'

def stepStartName (letters : List Char) (c : Char) : ScriptState :=
  if endsName c then (if letters.reverse == "script".toList then .inner 0 else .comment 0)
  else if isLetter c then .startName (asciiLower c :: letters)
  else stepComment 0 c

def step (state : ScriptState) (c : Char) : ScriptState :=
  match state with
  | .outside => stepOutside c
  | .angle => if c == '!' then .bang else stepOutside c
  | .bang => if c == '-' then .dash else stepOutside c
  | .dash => if c == '-' then .comment 2 else stepOutside c
  | .comment dashes => stepComment dashes c
  | .commentAngle => if isLetter c then stepStartName [] c else stepComment 0 c
  | .startName letters => stepStartName letters c
  | .inner dashes => stepInner dashes c
  | .innerAngle => if c == '/' then .endName [] else stepInner 0 c
  | .endName letters =>
    if endsName c then (if letters.reverse == "script".toList then .comment 0 else .inner 0)
    else if isLetter c then .endName (asciiLower c :: letters)
    else stepInner 0 c

end ScriptState

/-- Splits a script before its end tag. -/
def scriptText (state : ScriptState) : List Char → List Char × List Char
  | [] => ([], [])
  | c :: cs =>
    if state.closable && atEndTag "script" (c :: cs) then ([], c :: cs)
    else
      let (inside, rest) := scriptText (state.step c) cs
      (c :: inside, rest)

def plainPieces (s : List Char) : List Piece :=
  s.map fun c => .char (replaceNul c)

/-- Text pieces without U+0000. -/
def withoutNul : Piece → Piece
  | .char c => .char (replaceNul c)
  | piece => piece

/-- The text before an end tag, or the end tag if there is none. -/
def beforeEndTag (pieces : List Char → List Piece) (split : List Char × List Char) :
    List Token × List Char :=
  if split.1.isEmpty then endTag (split.2.drop 2) else (textTokens (pieces split.1), split.2)

/-- Drops a byte order mark in front. -/
def dropMark : List Char → List Char
  | '\ufeff' :: rest => rest
  | s => s

/-- The text of a script, or its end tag. Reading starts anew where a script has ended, so a byte
order mark that follows is dropped. -/
def scriptTokens (s : List Char) : List Token × List Char :=
  let (text, rest) := scriptText .outside s
  if text.isEmpty then
    let (tokens, rest) := endTag (rest.drop 2)
    (tokens, dropMark rest)
  else (textTokens (plainPieces text), rest)

/-- Takes the next tokens off the front of the markup, which is not empty. -/
def scan (mode : Mode) (foreign : Bool) (s : List Char) : List Token × List Char :=
  match mode with
  | .data =>
    match s with
    | '<' :: rest => markup foreign rest
    | '\x00' :: rest => ([.nul], rest)
    | _ =>
      let inRun := fun c => c != '<' && c != '\x00'
      (textTokens (Reference.decode (s.takeWhile inRun)), s.dropWhile inRun)
  | .escapable name =>
    beforeEndTag (fun text => (Reference.decode text).map withoutNul) (rawText name s)
  | .raw name => beforeEndTag plainPieces (rawText name s)
  | .script => scriptTokens s
  | .plain => (textTokens (plainPieces s), [])

/-- Writes every line end as one line feed. -/
def normalizeLines : List Char → List Char
  | [] => []
  | '\r' :: '\n' :: rest => '\n' :: normalizeLines rest
  | '\r' :: rest => '\n' :: normalizeLines rest
  | c :: rest => c :: normalizeLines rest

/-- The characters of the markup, without a byte order mark in front. -/
def prepare (markup : String) : List Char :=
  dropMark (normalizeLines markup.toList)

end HtmlComponent.Html.Lexer
