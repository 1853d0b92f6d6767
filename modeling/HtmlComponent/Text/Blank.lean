import HtmlComponent.Text.CharRanges

/-!
# Blank characters and words

Blank characters are those of the Unicode property `White_Space`. Text is split into words, its
maximal runs without a blank; a text is blank when it has none.
-/

namespace HtmlComponent.Text

/-- The code points of the property `White_Space`. -/
def blankRanges : CharRanges :=
  [(0x9, 0xD), (0x20, 0x20), (0x85, 0x85), (0xA0, 0xA0), (0x1680, 0x1680), (0x2000, 0x200A),
   (0x2028, 0x2029), (0x202F, 0x202F), (0x205F, 0x205F), (0x3000, 0x3000)]

def isBlank (c : Char) : Bool :=
  blankRanges.has c

/-- A text is blank when nothing is left of it after trimming. -/
def blank (s : String) : Bool :=
  s.toList.all isBlank

/-- Puts a word that has just ended before the words that follow it, unless it is empty. -/
def closeWord (word : List Char) (rest : List (List Char)) : List (List Char) :=
  if word.isEmpty then rest else word :: rest

/-- The word that the text starts with (empty if it starts with a blank) and the words after it. -/
def splitWords : List Char → List Char × List (List Char)
  | [] => ([], [])
  | c :: cs =>
    let later := splitWords cs
    if isBlank c then ([], closeWord later.1 later.2) else (c :: later.1, later.2)

/-- The maximal runs of `s` that hold no blank, from left to right. -/
def words (s : String) : List String :=
  let split := splitWords s.toList
  (closeWord split.1 split.2).map String.ofList

end HtmlComponent.Text
