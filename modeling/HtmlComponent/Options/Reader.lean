import HtmlComponent.Error
import HtmlComponent.Options.Basic
import HtmlComponent.Options.Skip

/-!
# Reading options

Options are written as a JSON object whose unknown members are read over, or as an array that gives
the two fields by position. A field is a string or null, and comes up at most once.
-/

namespace HtmlComponent.Options

/-- Reads a value of the wrong kind, to name it. A list or an object is named unread. -/
def found (s : List Char) : Except Stop (Found × List Char) :=
  let named (value : Found) (letters rest : List Char) : Except Stop (Found × List Char) :=
    match word letters rest with
    | .error e => .error e
    | .ok ⟨rest', _⟩ => .ok (value, rest')
  match s with
  | [] => ahead .expectedValue []
  | c :: rest =>
    if c == 'n' then named .null ['u', 'l', 'l'] rest
    else if c == 't' then named (.bool true) ['r', 'u', 'e'] rest
    else if c == 'f' then named (.bool false) ['a', 'l', 's', 'e'] rest
    else if c == '-' then number true rest
    else if c.isDigit then number false s
    else if c == '"' then
      match stringBody rest with
      | .error e => .error e
      | .ok ⟨text, rest', _⟩ => .ok (.string (String.ofList text), rest')
    else if c == '[' then .ok (.sequence, s)
    else if c == '\x7b' then .ok (.map, s)
    else ahead .expectedValue s

/-- Stops at a value of the wrong kind. -/
def invalidType {α : Type} (wanted : Wanted) (s : List Char) : Except Stop α :=
  match found s with
  | .error e => .error e
  | .ok (value, rest) => here (.invalidType value wanted) rest

/-- Reads the value of a field. -/
def fieldValue (s : List Char) : Except Stop (Taken (Option String) s) :=
  match h : skipGaps s with
  | [] => ahead .eofValue []
  | c :: rest =>
    have hs : rest.length < s.length := length_lt_of_skipGaps h
    if c == 'n' then
      match word ['u', 'l', 'l'] rest with
      | .error e => .error e
      | .ok left => .ok (left.taken none hs)
    else if c == '"' then
      match stringBody rest with
      | .error e => .error e
      | .ok text => .ok (text.left.taken (some (String.ofList text.value)) hs)
    else invalidType .text (c :: rest)

/-! ## Objects -/

/-- The fields read so far; a field that was null is there too. -/
structure Draft where
  name : Option (Option String) := none
  styleLibrary : Option (Option String) := none

namespace Draft

def get (d : Draft) : Field → Option (Option String)
  | .name => d.name
  | .styleLibrary => d.styleLibrary

def set (d : Draft) (field : Field) (value : Option String) : Draft :=
  match field with
  | .name => ⟨some value, d.styleLibrary⟩
  | .styleLibrary => ⟨d.name, some value⟩

def finish (d : Draft) : Options :=
  ⟨d.name.getD none, d.styleLibrary.getD none⟩

end Draft

def Field.ofKey? (key : List Char) : Option Field :=
  if key = Field.name.key.toList then some .name
  else if key = Field.styleLibrary.key.toList then some .styleLibrary
  else none

/-- Stops at a field that comes up again. The place is behind the key and the blanks after it, and
behind the end of the object if that follows at once. -/
def duplicate {α : Type} (field : Field) (s : List Char) : Except Stop α :=
  match skipGaps s with
  | '\x7d' :: rest => here (.duplicateField field) rest
  | t => here (.duplicateField field) t

/-- Reads the value that a key introduces. -/
def member (draft : Draft) (key : List Char) (s : List Char) : Except Stop (Taken Draft s) :=
  match Field.ofKey? key with
  | some field =>
    if (draft.get field).isSome then duplicate field s
    else
      match colon s with
      | .error e => .error e
      | .ok mark =>
        match fieldValue mark.rest with
        | .error e => .error e
        | .ok given => .ok (given.left.taken (draft.set field given.value) mark.shorter)
  | none =>
    match colon s with
    | .error e => .error e
    | .ok mark =>
      match skipValue mark.rest with
      | .error e => .error e
      | .ok left => .ok (left.taken draft mark.shorter)

/-- Reads the opening quote of a key; after a comma there has to be one. -/
def keyQuote (s : List Char) : Except Stop (Taken Unit s) :=
  match h : skipGaps s with
  | [] => ahead .eofValue []
  | c :: rest =>
    if c == '"' then .ok ⟨(), rest, length_lt_of_skipGaps h⟩
    else if c == '\x7d' then ahead .trailingComma (c :: rest)
    else ahead .keyMustBeString (c :: rest)

/-- What stands between two members, or before the first: the place where a key is due, or the text
after the object. -/
def nextMember (first : Bool) (s : List Char) :
    Except Stop (List Char ⊕ Left s) :=
  match h : skipGaps s with
  | [] => ahead .eofObject []
  | c :: rest =>
    if c == '\x7d' then .ok (.inl rest)
    else if first then .ok (.inr ⟨c :: rest, length_lt_of_skipGaps h⟩)
    else if c == ',' then .ok (.inr ⟨rest, length_le_of_skipGaps h⟩)
    else ahead .expectedObjectCommaOrEnd (c :: rest)

/-- Reads the members of an object up to its end. -/
def members (first : Bool) (draft : Draft) (s : List Char) : Except Stop (Options × List Char) :=
  match nextMember first s with
  | .error e => .error e
  | .ok (.inl rest) => .ok (draft.finish, rest)
  | .ok (.inr ⟨atKey, _⟩) =>
    match keyQuote atKey with
    | .error e => .error e
    | .ok ⟨_, inKey, _⟩ =>
      match stringBody inKey with
      | .error e => .error e
      | .ok ⟨key, afterKey, _⟩ =>
        match member draft key afterKey with
        | .error e => .error e
        | .ok ⟨draft', rest, _⟩ => members false draft' rest
termination_by s.length
decreasing_by omega

/-! ## Arrays -/

/-- Reads an element that may be missing; the closing bracket is left for `closeList`. -/
def element (first : Bool) (s : List Char) : Except Stop (Option String × List Char) :=
  let read (s : List Char) : Except Stop (Option String × List Char) :=
    match fieldValue s with
    | .error e => .error e
    | .ok ⟨value, rest, _⟩ => .ok (value, rest)
  match skipGaps s with
  | [] => ahead .eofList []
  | c :: rest =>
    if c == ']' then .ok (none, c :: rest)
    else if first then read (c :: rest)
    else if c == ',' then
      match skipGaps rest with
      | [] => ahead .eofValue []
      | ']' :: rest' => ahead .trailingComma (']' :: rest')
      | t => read t
    else ahead .expectedListCommaOrEnd (c :: rest)

/-- Reads the end of the array, which holds two elements at most. -/
def closeList (s : List Char) : Except Stop (List Char) :=
  match skipGaps s with
  | [] => ahead .eofList []
  | ']' :: rest => .ok rest
  | ',' :: rest =>
    match skipGaps rest with
    | ']' :: rest' => ahead .trailingComma (']' :: rest')
    | t => ahead .trailingCharacters t
  | t => ahead .trailingCharacters t

def elements (s : List Char) : Except Stop (Options × List Char) := do
  let (name, rest) ← element true s
  let (styleLibrary, rest) ← element false rest
  let rest ← closeList rest
  return (⟨name, styleLibrary⟩, rest)

/-! ## The whole text -/

/-- Reads options off the front of a text. -/
def read (s : List Char) : Except Stop (Options × List Char) :=
  match skipGaps s with
  | [] => ahead .eofValue []
  | '[' :: rest => elements rest
  | '\x7b' :: rest => members true ⟨none, none⟩ rest
  | t => invalidType .options t

/-- Reads a text that holds options and nothing else. -/
def readAll (s : List Char) : Except Stop Options :=
  match read s with
  | .error e => .error e
  | .ok (options, rest) =>
    match skipGaps rest with
    | [] => .ok options
    | t => ahead .trailingCharacters t

/-- The options that a text gives, or the fault that keeps it from giving any. -/
def decode (text : String) : Except Fault Options :=
  match readAll text.toList with
  | .error stop => .error (stop.locate text)
  | .ok options => .ok options

/-- The options that a text gives. A fault in it is an error in the options. -/
def ofJson (text : String) : Except Error Options :=
  match decode text with
  | .error fault => .error (.invalidOptions fault)
  | .ok options => .ok options

end HtmlComponent.Options
