import HtmlComponent.Html.Reference.Names
import HtmlComponent.Html.Token

/-!
# Character references

An ampersand followed by a name or a number stands for the character that they denote. A reference
without its semicolon counts too, if it is a number or one of the older names; inside an attribute
such a name must not run on.
-/

namespace HtmlComponent.Html.Reference

/-- What a reference stands for, and the number of characters it takes after the ampersand. -/
structure Match where
  pieces : List Piece
  length : Nat

/-- The text after `start`. -/
def after? : List Char → List Char → Option (List Char)
  | [], s => some s
  | _ :: _, [] => none
  | p :: ps, c :: cs => if p == c then after? ps cs else none

/-- A name found at the front of a text. -/
structure Named where
  text : String
  length : Nat
  terminated : Bool
  rest : List Char

def named? (s : List Char) (entry : String × String) : Option Named :=
  match after? entry.1.toList s with
  | none => none
  | some (';' :: rest) => some ⟨entry.2, entry.1.length + 1, true, rest⟩
  | some rest =>
    if unterminatedNames.contains entry.1 then some ⟨entry.2, entry.1.length, false, rest⟩ else none

def longer (best : Option Named) (found : Named) : Option Named :=
  match best with
  | none => some found
  | some b => if b.length < found.length then some found else some b

/-- The longest name that the text starts with. -/
def longestName? (s : List Char) : Option Named :=
  match s with
  | [] => none
  | c :: _ => ((namesFrom c).filterMap (named? s)).foldl longer none

/-- Whether a name without its semicolon runs on in an attribute. -/
def runsOn : List Char → Bool
  | [] => false
  | c :: _ => c == '=' || isAlphanumeric c

/-- The characters for 0x80 to 0x9F, which are those of an older encoding. -/
def controlReplacements : List Nat :=
  [0x20AC, 0x81, 0x201A, 0x192, 0x201E, 0x2026, 0x2020, 0x2021, 0x2C6, 0x2030, 0x160, 0x2039, 0x152,
   0x8D, 0x17D, 0x8F, 0x90, 0x2018, 0x2019, 0x201C, 0x201D, 0x2022, 0x2013, 0x2014, 0x2DC, 0x2122,
   0x161, 0x203A, 0x153, 0x9D, 0x17E, 0x178]

/-- The character for a number. -/
def numbered (n : Nat) : Char :=
  if n == 0 || 0x10FFFF < n || (0xD800 ≤ n && n ≤ 0xDFFF) then replacement
  else if 0x80 ≤ n && n ≤ 0x9F then Char.ofNat (controlReplacements.getD (n - 0x80) n)
  else Char.ofNat n

def hexValue (c : Char) : Nat :=
  if c.isDigit then c.toNat - '0'.toNat
  else (asciiLower c).toNat - 'a'.toNat + 10

def isHexDigit (c : Char) : Bool :=
  c.isDigit || ('a' ≤ asciiLower c && asciiLower c ≤ 'f')

/-- A number written in `base` after a mark of some characters. -/
def number? (mark base : Nat) (isDigit : Char → Bool) (s : List Char) : Option Match :=
  let digits := s.takeWhile isDigit
  let value := digits.foldl (fun n c => n * base + hexValue c) 0
  if digits.isEmpty then none
  else
    match s.drop digits.length with
    | ';' :: _ => some ⟨[.char (numbered value)], mark + digits.length + 1⟩
    | _ => some ⟨[.slip, .char (numbered value)], mark + digits.length⟩

/-- The reference that the text after an ampersand starts with. -/
def match? (inAttribute : Bool) (s : List Char) : Option Match :=
  match s with
  | '#' :: 'x' :: rest => number? 2 16 isHexDigit rest
  | '#' :: 'X' :: rest => number? 2 16 isHexDigit rest
  | '#' :: rest => number? 1 10 Char.isDigit rest
  | _ =>
    match longestName? s with
    | none => none
    | some n =>
      if inAttribute && !n.terminated && runsOn n.rest then none
      else some ⟨n.text.toList.map .char, n.length⟩

/-- The text with its references replaced, past the first `skip` characters. -/
def decodeFrom (inAttribute : Bool) : Nat → List Char → List Piece
  | _, [] => []
  | skip + 1, _ :: cs => decodeFrom inAttribute skip cs
  | 0, c :: cs =>
    if c == '&' then
      match match? inAttribute cs with
      | some found => found.pieces ++ decodeFrom inAttribute found.length cs
      | none => .char c :: decodeFrom inAttribute 0 cs
    else .char c :: decodeFrom inAttribute 0 cs

def decode (s : List Char) : List Piece :=
  decodeFrom false 0 s

/-- The value of an attribute, from what is written. -/
def attributeValue (s : List Char) : String :=
  String.ofList ((decodeFrom true 0 s).filterMap fun
    | .char c => some (replaceNul c)
    | _ => none)

end HtmlComponent.Html.Reference
