import HtmlComponent.Text.Casing.Table

/-!
# Lower case

Full lower-case mapping of text. Each character maps by itself, except the capital sigma inside a
text: at the end of a word it becomes the final form, elsewhere the ordinary one.
-/

namespace HtmlComponent.Text

/-- The code point that `n` maps to. -/
def lowerCode (n : Nat) : Nat :=
  match lowerRuns.find? (·.covers n) with
  | some run => (n + run.shift).toNat
  | none => n

/-- The lower-case form of a character that stands alone. Only the dotted capital I takes two. -/
def lowerChar (c : Char) : List Char :=
  if c == '\u0130' then ['i', '\u0307'] else [Char.ofNat (lowerCode c.toNat)]

def isCased (c : Char) : Bool :=
  casedRanges.has c

def isCaseIgnorable (c : Char) : Bool :=
  caseIgnorableRanges.has c

/-- Whether the first character that case rules do not look past is cased. -/
def casedNext (cs : List Char) : Bool :=
  match cs.dropWhile isCaseIgnorable with
  | [] => false
  | c :: _ => isCased c

/-- The lower-case form of the capital sigma between the characters `before`, nearest first, and
`after`: final when a word ends here. -/
def lowerSigma (before after : List Char) : Char :=
  if casedNext before && !casedNext after then 'ς' else 'σ'

/-- Lower-cases the rest of a text whose earlier characters are `before`, nearest first. -/
def lowerFrom (before : List Char) : List Char → List Char
  | [] => []
  | c :: cs =>
    (if c == 'Σ' then [lowerSigma before cs] else lowerChar c) ++ lowerFrom (c :: before) cs

def lower (s : String) : String :=
  String.ofList (lowerFrom [] s.toList)

/-- Lower-cases the first character by itself; none for the empty text. -/
def lowerFirst? (s : String) : Option String :=
  match s.toList with
  | [] => none
  | c :: cs => some (String.ofList (lowerChar c ++ cs))

end HtmlComponent.Text
