/-!
# Quoted text

Two written forms of a text: the JSON string between double quotes, and the template literal between
backticks that is obtained from it by three replacements.
-/

namespace HtmlComponent.Text

/-- The hexadecimal digit of a number below sixteen, in lower case. -/
def hexDigit (n : Nat) : Char :=
  Nat.digitChar n

/-- A character inside a JSON string: the quote, the backslash and the control characters are
escaped, everything else stands as it is. -/
def jsonChar (c : Char) : List Char :=
  if c == '"' then ['\\', '"']
  else if c == '\\' then ['\\', '\\']
  else if c == '\x08' then ['\\', 'b']
  else if c == '\t' then ['\\', 't']
  else if c == '\n' then ['\\', 'n']
  else if c == '\x0c' then ['\\', 'f']
  else if c == '\r' then ['\\', 'r']
  else if c.toNat < 0x20 then
    ['\\', 'u', '0', '0', hexDigit (c.toNat / 16), hexDigit (c.toNat % 16)]
  else [c]

/-- The text between the quotes of a JSON string. -/
def jsonInner (cs : List Char) : List Char :=
  cs.flatMap jsonChar

def jsonString (s : String) : String :=
  String.ofList ('"' :: jsonInner s.toList ++ ['"'])

/-- Replaces every escaped double quote, read from left to right, by a plain one. -/
def unescapeQuotes : List Char → List Char
  | '\\' :: '"' :: cs => '"' :: unescapeQuotes cs
  | c :: cs => c :: unescapeQuotes cs
  | [] => []

/-- Puts a backslash before every `mark`. -/
def escapeMark (mark : Char) (cs : List Char) : List Char :=
  cs.flatMap fun c => if c == mark then ['\\', c] else [c]

/-- The template literal of a text: its JSON form with the double quotes bare, and with backticks
and dollar signs escaped. -/
def templateLiteral (s : String) : String :=
  let inner := escapeMark '$' (escapeMark '\x60' (unescapeQuotes (jsonInner s.toList)))
  String.ofList ('\x60' :: inner ++ ['\x60'])

end HtmlComponent.Text
