import Mathlib.Data.List.Defs
import HtmlComponent.Component.Body
import HtmlComponent.Proofs.Node.Traversal
import HtmlComponent.Proofs.Text.Literal

/-!
# What a body tells of its tree

The outline of a tree is what its body shows: texts, calls with their names, the attributes that are
not event handlers, and whether there is an object of attributes at all. A reader recovers it from
the body, going by the layout of calls, objects, lists and literals.
-/

namespace HtmlComponent

/-- One field of an object of attributes: the identifiers of a class, or a value under its name. -/
inductive Field where
  | classes (identifiers : List String)
  | value (name value : String)
  deriving DecidableEq

inductive Outline where
  | group (children : List Outline)
  | call (name : String) (fields : Option (List Field)) (children : List Outline)
  | text (value : String)

/-- The field of one attribute. -/
def Field.ofEntry (name value : String) : Field :=
  if name = "class" then .classes ((Text.words value).map Identifier.sanitize)
  else .value name value

/-- The fields of a tag in order, without event handlers; none at all if it has no attributes. -/
def Field.ofAttributes? (as : Attributes) : Option (List Field) :=
  if as.isEmpty then none
  else some ((as.entries.filter fun e => !Component.Body.isHandler e.1).map fun e =>
    Field.ofEntry e.1 e.2)

namespace Node

mutual

def outline : Node → Outline
  | .root children => .group (outlines children)
  | .tag name attributes children => .call name (Field.ofAttributes? attributes) (outlines children)
  | .text value => .text value

def outlines : List Node → List Outline
  | [] => []
  | child :: rest => child.outline :: outlines rest

end

theorem outlines_eq_map (nodes : List Node) : outlines nodes = nodes.map outline := by
  induction nodes with
  | nil => rfl
  | cons node rest ih => rw [outlines, ih, List.map_cons]

end Node

/-! ## Plain names -/

namespace Component.Body

def isPlainChar (c : Char) : Bool :=
  c.isAlphanum || c == '-' || c == '_' || c == ':' || c == '.'

/-- A name is plain when it is not empty and has no characters but letters, digits and these marks,
all of them ASCII. -/
def isPlain (name : String) : Bool :=
  !name.toList.isEmpty && name.toList.all isPlainChar

/-- Whether a node below the root is a text, or a tag all of whose names are plain. -/
def hasPlainNames : Node → Bool
  | .root _ => false
  | .tag name attributes _ =>
    isPlain name && attributes.entries.all fun e =>
      isPlain e.1 && (e.1 != "class" || (Text.words e.2).all isPlain)
  | .text _ => true

/-! ## Reading a body -/

/-- Reads the longest run of plain characters, of which there has to be one. -/
def readWord (s : List Char) : Option (String × List Char) :=
  if (s.takeWhile isPlainChar).isEmpty then none
  else some (String.ofList (s.takeWhile isPlainChar), s.dropWhile isPlainChar)

/-- Reads items, at least one, with a separator between each two. The fuel bounds their number. -/
def readItems {α : Type} (item : List Char → Option (α × List Char)) (separator : List Char) :
    Nat → List Char → Option (List α × List Char)
  | 0, _ => none
  | fuel + 1, s =>
    match item s with
    | none => none
    | some (a, rest) =>
      match rest.dropPrefix? separator with
      | none => some ([a], rest)
      | some rest =>
        match readItems item separator fuel rest with
        | none => none
        | some (as, rest) => some (a :: as, rest)

/-- Reads items, at least one, with a separator between each two. -/
def readSeparated {α : Type} (item : List Char → Option (α × List Char)) (separator s : List Char) :
    Option (List α × List Char) :=
  readItems item separator (s.length + 1) s

/-- Reads items up to a closing bracket. -/
def readEnclosed {α : Type} (item : List Char → Option (α × List Char)) (close : Char)
    (s : List Char) : Option (List α × List Char) :=
  if s.head? == some close then some ([], s.tail)
  else
    match readSeparated item ", ".toList s with
    | none => none
    | some (as, rest) => (rest.dropPrefix? [close]).map fun rest => (as, rest)

/-- Reads the key of a field and the colon after it. A bare key may hold colons itself, so it is the
last one of the run that counts. -/
def readKey (s : List Char) : Option (String × List Char) :=
  match s with
  | '"' :: s =>
    match Options.stringBody s with
    | .error _ => none
    | .ok taken =>
      (taken.rest.dropPrefix? ": ".toList).map fun rest => (String.ofList taken.value, rest)
  | s =>
    match (s.takeWhile isPlainChar).getLast?, s.dropWhile isPlainChar with
    | some ':', ' ' :: rest => some (String.ofList (s.takeWhile isPlainChar).dropLast, rest)
    | _, _ => none

/-- Reads a literal with its opening mark. -/
def readText (s : List Char) : Option (String × List Char) :=
  match s with
  | '\x60' :: s => (Text.readLiteral s).map fun (cs, rest) => (String.ofList cs, rest)
  | _ => none

def readField (s : List Char) : Option (Field × List Char) :=
  match s.dropPrefix? "c: [".toList with
  | some s => (readEnclosed readWord ']' s).map fun (words, rest) => (.classes words, rest)
  | none =>
    match readKey s with
    | none => none
    | some (name, s) => (readText s).map fun (value, rest) => (.value name value, rest)

/-- Reads the start of a call: its name, the bracket and the object of attributes, if there is
one. -/
def readHead (s : List Char) : Option ((String × Option (List Field)) × List Char) :=
  match readWord s with
  -- a first child stands on a line of its own, so a brace here opens the attributes
  | some (name, '(' :: '\x7b' :: s) =>
    (readEnclosed readField '\x7d' s).map fun (fields, rest) => ((name, some fields), rest)
  | some (name, '(' :: s) => some ((name, none), s)
  | _ => none

/-- What stands between the start of a call and its first child. -/
def childrenMark (fields : Option (List Field)) : List Char :=
  if fields.isSome then ",\n".toList else "\n".toList

/-- What stands between the last child of a call and its end. -/
def closingMark (depth : Nat) : List Char :=
  '\n' :: (indent depth).toList ++ [')']

/-- Reads a text or a call at a depth, with no more than so many levels of calls. -/
def readNode : Nat → Nat → List Char → Option (Outline × List Char)
  | 0, _, _ => none
  | levels + 1, depth, s =>
    match s.dropPrefix? (indent depth).toList with
    | none => none
    | some s =>
      -- no name of a call starts like a literal
      if s.head? == some '\x60' then (readText s).map fun (value, rest) => (.text value, rest)
      else
        match readHead s with
        | none => none
        | some ((name, fields), s) =>
          if s.head? == some ')' then some (.call name fields [], s.tail)
          else
            match s.dropPrefix? (childrenMark fields) with
            | none => none
            | some s =>
              match readSeparated (readNode levels (depth + 1)) ",\n".toList s with
              | none => none
              | some (children, s) =>
                (s.dropPrefix? (closingMark depth)).map fun rest =>
                  (.call name fields children, rest)

/-- Reads a whole body. -/
def read (body : String) : Option Outline :=
  let s := body.toList
  if s.isEmpty then some (.group [])
  else
    match readSeparated (readNode s.length 0) ",\n".toList s with
    | some (children, []) => some (.group children)
    | _ => none

end Component.Body

end HtmlComponent
