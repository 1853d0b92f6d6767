/-!
# Tokens of markup
-/

namespace HtmlComponent.Html

/-- A start tag as written: names in lower case, of a repeated attribute only the first. -/
structure Tag where
  name : String
  attributes : List (String × String)
  selfClosing : Bool

inductive Token where
  | startTag (tag : Tag)
  | endTag (name : String)
  | comment
  /-- A run of characters that are all white space, or none of them. -/
  | text (blank : Bool) (chars : List Char)
  /-- The character U+0000, which most places drop. -/
  | nul
  /-- Something that leaves nothing in the tree: a document type, or a slip in the writing. -/
  | trivia
  | eof

/-- White space of the markup grammar. -/
def isSpace (c : Char) : Bool :=
  c == ' ' || c == '\t' || c == '\n' || c == '\x0c' || c == '\r'

def isLetter (c : Char) : Bool :=
  ('a' ≤ c && c ≤ 'z') || ('A' ≤ c && c ≤ 'Z')

def isAlphanumeric (c : Char) : Bool :=
  isLetter c || ('0' ≤ c && c ≤ '9')

/-- Lower case of the letters A to Z; every other character stays. -/
def asciiLower (c : Char) : Char :=
  if 'A' ≤ c && c ≤ 'Z' then Char.ofNat (c.toNat + 32) else c

def asciiLowerString (s : String) : String :=
  String.ofList (s.toList.map asciiLower)

/-- The character that stands for one that may not be there. -/
def replacement : Char := '\ufffd'

def replaceNul (c : Char) : Char :=
  if c == '\x00' then replacement else c

/-- The text after `start`, whose letters count in either case. -/
def afterIgnoringCase? : List Char → List Char → Option (List Char)
  | [], s => some s
  | _ :: _, [] => none
  | p :: ps, c :: cs => if asciiLower p == asciiLower c then afterIgnoringCase? ps cs else none

/-- A character of text, or something between characters. -/
inductive Piece where
  | char (c : Char)
  | nul
  | slip

/-- Groups pieces of text into tokens. -/
def textTokens : List Piece → List Token
  | [] => []
  | .nul :: rest => .nul :: textTokens rest
  | .slip :: rest => .trivia :: textTokens rest
  | .char c :: rest =>
    match textTokens rest with
    | .text blank chars :: later =>
      if blank == isSpace c then .text blank (c :: chars) :: later
      else .text (isSpace c) [c] :: .text blank chars :: later
    | later => .text (isSpace c) [c] :: later

end HtmlComponent.Html
