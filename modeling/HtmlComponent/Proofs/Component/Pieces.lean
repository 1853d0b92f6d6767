import Mathlib.Data.List.Basic
import HtmlComponent.Component.Body
import HtmlComponent.Proofs.Attributes
import HtmlComponent.Proofs.Document.Names

/-!
# The pieces of a body

A body is a sequence of pieces, each with a part to play: the name that a call starts with, the
identifiers of a class, keys, literals and layout. Names and classes may hold any characters, so it
is by its pieces, and not by its text alone, that a body tells which names it uses.
-/

namespace HtmlComponent.Component.Body

inductive Piece where
  /-- The name of a call and the bracket behind it. -/
  | callee (name : String)
  /-- A class field with its identifiers. -/
  | classes (identifiers : List String)
  /-- The key of any other field and the colon behind it. -/
  | key (name : String)
  | literal (value : String)
  /-- Indentation, line ends, commas and the other brackets. -/
  | layout (text : String)

namespace Piece

def text : Piece → String
  | .callee name => name ++ "("
  | .classes identifiers => "c: [" ++ Text.joinWith ", " identifiers ++ "]"
  | .key name => Body.key name ++ ": "
  | .literal value => Text.templateLiteral value
  | .layout text => text

/-- The name of a call, if the piece is one. -/
def callees : Piece → List String
  | .callee name => [name]
  | _ => []

/-- The identifiers of a class, if the piece is one. -/
def identifiers : Piece → List String
  | .classes identifiers => identifiers
  | _ => []

/-- The text of pieces that follow one another. -/
def textOf (pieces : List Piece) : String :=
  String.join (pieces.map text)

/-- Pieces with a separator between each two items. -/
def separate (separator : String) : List (List Piece) → List Piece
  | [] => []
  | [item] => item
  | item :: rest => item ++ .layout separator :: separate separator rest

end Piece

open Piece

/-! ## From trees to pieces -/

def fieldPieces (name value : String) : List Piece :=
  if name = "class" then [.classes ((Text.words value).map Identifier.sanitize)]
  else [.key name, .literal value]

def attributePieces (as : Attributes) : List Piece :=
  if as.isEmpty then []
  else
    .layout "\x7b" ::
      separate ", " ((as.filter fun n => !isHandler n).entries.map fun e => fieldPieces e.1 e.2) ++
      [.layout "\x7d"]

def leadingAttributePieces (as : Attributes) : List Piece :=
  if as.isEmpty then [] else attributePieces as ++ [.layout ","]

mutual

/-- The pieces of a node at a depth. -/
def pieces (depth : Nat) : Node → List Piece
  | .root children => separate ",\n" (listPieces depth children)
  | .text value => [.layout (indent depth), .literal value]
  | .tag name as [] =>
    .layout (indent depth) :: .callee name :: attributePieces as ++ [.layout ")"]
  | .tag name as (child :: rest) =>
    .layout (indent depth) :: .callee name :: leadingAttributePieces as ++ .layout "\n" ::
      separate ",\n" (pieces (depth + 1) child :: listPieces (depth + 1) rest) ++
      [.layout "\n", .layout (indent depth), .layout ")"]

def listPieces (depth : Nat) : List Node → List (List Piece)
  | [] => []
  | child :: rest => pieces depth child :: listPieces depth rest

end

theorem listPieces_eq_map (depth : Nat) (nodes : List Node) :
    listPieces depth nodes = nodes.map (pieces depth) := by
  induction nodes with
  | nil => rfl
  | cons node rest ih => rw [listPieces, ih, List.map_cons]

/-! ## The text of the pieces -/

@[simp] theorem textOf_nil : textOf [] = "" :=
  rfl

@[simp] theorem textOf_cons (piece : Piece) (rest : List Piece) :
    textOf (piece :: rest) = piece.text ++ textOf rest := by
  rw [textOf, List.map_cons, String.join_cons, textOf]

@[simp] theorem textOf_append (ps qs : List Piece) :
    textOf (ps ++ qs) = textOf ps ++ textOf qs := by
  rw [textOf, List.map_append, String.join_append, textOf, textOf]

theorem textOf_separate (separator : String) (items : List (List Piece)) :
    textOf (separate separator items) = Text.joinWith separator (items.map textOf) := by
  induction items with
  | nil => rfl
  | cons item rest ih =>
    cases rest with
    | nil => rfl
    | cons next rest =>
      rw [separate, textOf_append, textOf_cons, ih]
      · simp [Text.joinWith, Piece.text, String.append_assoc]
      · simp

theorem textOf_fieldPieces (name value : String) :
    textOf (fieldPieces name value) = field name value := by
  unfold fieldPieces field
  split
  · simp [Piece.text, Identifier.importList]
  · simp [Piece.text]

theorem textOf_attributePieces (as : Attributes) :
    textOf (attributePieces as) = attributes as := by
  unfold attributePieces attributes
  split
  · rfl
  · have hfields : ((as.filter fun n => !isHandler n).entries.map fun e =>
        fieldPieces e.1 e.2).map textOf = fields as.entries := by
      rw [List.map_map]
      apply List.map_congr_left
      intro e _
      exact textOf_fieldPieces e.1 e.2
    rw [List.cons_append, textOf_cons, textOf_append, textOf_separate, hfields]
    simp [Piece.text, String.append_assoc]

theorem textOf_leadingAttributePieces (as : Attributes) :
    textOf (leadingAttributePieces as) = leadingAttributes as := by
  unfold leadingAttributePieces leadingAttributes
  split
  · rfl
  · simp [textOf_attributePieces, Piece.text]

theorem textOf_separate_pieces {depth : Nat} {nodes : List Node}
    (h : ∀ n ∈ nodes, textOf (pieces depth n) = node depth n) :
    textOf (separate ",\n" (nodes.map (pieces depth))) =
      Text.joinWith ",\n" (nodes.map (node depth)) := by
  rw [textOf_separate, List.map_map]
  congr 1
  exact List.map_congr_left h

/-- The pieces of a node make up its text. -/
theorem textOf_pieces (depth : Nat) (n : Node) : textOf (pieces depth n) = node depth n := by
  induction n using Node.induction generalizing depth with
  | root children ih =>
    rw [pieces, node, listPieces_eq_map, nodes_eq_map]
    exact textOf_separate_pieces fun child hchild => ih child hchild depth
  | text value => simp [pieces, node, Piece.text]
  | tag name as children ih =>
    cases children with
    | nil => simp [pieces, node, Piece.text, textOf_attributePieces, String.append_assoc]
    | cons child rest =>
      have hchildren := textOf_separate_pieces fun n hn => ih n hn (depth + 1)
      rw [List.map_cons, List.map_cons] at hchildren
      simp [pieces, node, listPieces_eq_map, nodes_eq_map, Piece.text, hchildren,
        textOf_leadingAttributePieces, String.append_assoc]

/-! ## What the pieces name -/

/-- A way to look at pieces that sees nothing but the names of calls and the classes. -/
structure SeesNames {α : Type} (f : Piece → List α) : Prop where
  layout : ∀ text, f (.layout text) = []
  key : ∀ name, f (.key name) = []
  literal : ∀ value, f (.literal value) = []

theorem seesNames_callees : SeesNames callees :=
  ⟨fun _ => rfl, fun _ => rfl, fun _ => rfl⟩

theorem seesNames_identifiers : SeesNames identifiers :=
  ⟨fun _ => rfl, fun _ => rfl, fun _ => rfl⟩

section

variable {α : Type} {f : Piece → List α}

theorem flatMap_separate (hf : SeesNames f) (separator : String) (items : List (List Piece)) :
    (separate separator items).flatMap f = items.flatMap fun item => item.flatMap f := by
  induction items with
  | nil => rfl
  | cons item rest ih =>
    cases rest with
    | nil => simp [separate]
    | cons next rest =>
      rw [separate, List.flatMap_append, List.flatMap_cons, hf.layout, ih, List.flatMap_cons]
      · rfl
      · simp

theorem flatMap_fieldPieces (hf : SeesNames f) (name value : String) :
    (fieldPieces name value).flatMap f =
      if name = "class" then f (.classes ((Text.words value).map Identifier.sanitize)) else [] := by
  unfold fieldPieces
  split
  · simp
  · simp [hf.key, hf.literal]

/-- What is seen of the attributes of a tag: its class. -/
def seenClass (f : Piece → List α) (as : Attributes) : List α :=
  ((as.get? "class").map fun value =>
    f (.classes ((Text.words value).map Identifier.sanitize))).getD []

theorem flatMap_attributePieces (hf : SeesNames f) (as : Attributes) :
    (attributePieces as).flatMap f = seenClass f as := by
  unfold attributePieces
  split
  · rename_i hempty
    have hnil : as.entries = [] := List.isEmpty_iff.mp hempty
    simp [seenClass, Attributes.get?, hnil]
  · -- a class is no handler, so it is found among the attributes that are shown
    have hclass : (as.filter fun n => !isHandler n).get? "class" = as.get? "class" :=
      Attributes.get?_filter (by decide) as
    rw [List.cons_append, List.flatMap_cons, List.flatMap_append, flatMap_separate hf,
      List.flatMap_map]
    simp only [flatMap_fieldPieces hf]
    rw [Attributes.flatMap_entries_eq_get? _ "class" fun value =>
      f (.classes ((Text.words value).map Identifier.sanitize)), hclass]
    simp [hf.layout, seenClass]

theorem flatMap_leadingAttributePieces (hf : SeesNames f) (as : Attributes) :
    (leadingAttributePieces as).flatMap f = (attributePieces as).flatMap f := by
  unfold leadingAttributePieces
  split
  · rename_i hempty
    rw [attributePieces, if_pos hempty]
  · simp [hf.layout]

theorem flatMap_separate_pieces (hf : SeesNames f) {depth : Nat} {nodes : List Node}
    {seen : String × Attributes → List α}
    (h : ∀ n ∈ nodes, (pieces depth n).flatMap f = (n.preorder.filterMap Node.tag?).flatMap seen) :
    (separate ",\n" (nodes.map (pieces depth))).flatMap f =
      ((Node.listPreorder nodes).filterMap Node.tag?).flatMap seen := by
  rw [flatMap_separate hf, List.flatMap_map, Node.listPreorder_eq_flatMap, List.filterMap_flatMap,
    List.flatMap_assoc]
  exact List.flatMap_congr h

/-- The pieces of a tree name its tags and their classes, in preorder. -/
theorem flatMap_pieces (hf : SeesNames f) (depth : Nat) (n : Node) :
    (pieces depth n).flatMap f =
      (n.preorder.filterMap Node.tag?).flatMap fun t => f (.callee t.1) ++ seenClass f t.2 := by
  induction n using Node.induction generalizing depth with
  | root children ih =>
    rw [pieces, listPieces_eq_map, Node.preorder, List.filterMap_cons_none rfl]
    exact flatMap_separate_pieces hf fun child hchild => ih child hchild depth
  | text value => simp [pieces, Node.preorder, Node.tag?, hf.layout, hf.literal]
  | tag name as children ih =>
    have htag : Node.tag? (.tag name as children) = some (name, as) := rfl
    have hchildren := flatMap_separate_pieces hf fun n hn => ih n hn (depth + 1)
    rw [Node.preorder, List.filterMap_cons_some htag, List.flatMap_cons, ← hchildren]
    cases children with
    | nil => simp [pieces, separate, hf.layout, flatMap_attributePieces hf]
    | cons child rest =>
      simp [pieces, listPieces_eq_map, hf.layout, flatMap_leadingAttributePieces hf,
        flatMap_attributePieces hf]

end

/-- The calls of a body are those of the tags, under their own names. -/
theorem callees_pieces (depth : Nat) (n : Node) :
    (pieces depth n).flatMap callees = n.tagNames := by
  have hclass : ∀ as : Attributes, seenClass callees as = [] := by
    intro as
    unfold seenClass
    cases as.get? "class" <;> rfl
  rw [flatMap_pieces seesNames_callees, Node.tagNames, List.map_eq_flatMap]
  simp only [hclass, callees, List.append_nil]

/-- The identifiers of a body are the sanitized class tokens of its tags. -/
theorem identifiers_pieces (depth : Nat) (n : Node) :
    (pieces depth n).flatMap identifiers = n.classTokens.map Identifier.sanitize := by
  have hclass : ∀ as : Attributes, seenClass identifiers as =
      (Document.Builder.classTokens as).map Identifier.sanitize := by
    intro as
    unfold seenClass Document.Builder.classTokens
    cases as.get? "class" <;> rfl
  rw [flatMap_pieces seesNames_identifiers, Node.classTokens_eq_flatMap, List.map_flatMap]
  simp only [hclass, identifiers, List.nil_append]

end HtmlComponent.Component.Body
