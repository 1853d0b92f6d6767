import HtmlComponent.Html.State

/-!
# Formatting across blocks

Formatting goes on when its block ends, so tags may overlap. The elements that are in force are
opened again where text follows, and an end tag that crosses a block splits the element around it.
-/

namespace HtmlComponent.Html.State

/-- The formatting in force up to the last marker. -/
def liveFormatting (s : State) : List (NodeId × Tag) :=
  s.formatting.takeWhile (fun | .marker => false | .element _ _ => true) |>.filterMap fun
    | .marker => none
    | .element id tag => some (id, tag)

def formattingTag? (s : State) (id : NodeId) : Option Tag :=
  s.formatting.findSome? fun
    | .marker => none
    | .element other tag => if other == id then some tag else none

def removeFormatting (s : State) (id : NodeId) : State :=
  { s with formatting := s.formatting.filter fun
      | .marker => true
      | .element other _ => other != id }

def markFormatting (s : State) : State :=
  { s with formatting := .marker :: s.formatting }

/-- Forgets the formatting up to and with the last marker. -/
def clearFormatting (s : State) : State :=
  { s with formatting := (s.formatting.dropWhile fun
      | .marker => false
      | .element _ _ => true).tail }

def isOpen (s : State) (id : NodeId) : Bool :=
  s.stack.any (·.id == id)

/-- Opens formatting again that was closed, earliest first. -/
def reopen (s : State) : List (NodeId × Tag) → State
  | [] => s
  | (_, tag) :: rest =>
    let (e, s) := s.openElement .html tag.name (Space.html.attributes tag.attributes)
    { s with formatting := .element e.id tag :: s.formatting }.reopen rest

/-- Opens again all formatting that is in force but not open. -/
def reopenFormatting (s : State) : State :=
  let closed := s.formatting.takeWhile fun
    | .marker => false
    | .element id _ => !s.isOpen id
  let entries := closed.filterMap fun
    | .marker => none
    | .element id tag => some (id, tag)
  { s with formatting := s.formatting.drop closed.length }.reopen entries.reverse

/-- Whether two tags have the same name and the same attributes in some order. -/
def sameTag (t u : Tag) : Bool :=
  t.name == u.name && t.attributes.length == u.attributes.length &&
    t.attributes.all u.attributes.contains

/-- Opens a formatting element. Of the same tag at most three are in force. -/
def openFormatting (s : State) (tag : Tag) : State :=
  let equal := s.liveFormatting.filter fun entry => sameTag tag entry.2
  let s := match equal.getLast? with
    | some earliest => if 3 ≤ equal.length then s.removeFormatting earliest.1 else s
    | none => s
  let (e, s) := s.openElement .html tag.name (Space.html.attributes tag.attributes)
  { s with formatting := .element e.id tag :: s.formatting }

/-- Closes the named element unless a special one is in the way. -/
def closeOrdinary (s : State) (name : String) : State :=
  match s.stack.find? fun e => e.isNamed name || e.isSpecial with
  | some e =>
    if e.isNamed name then
      (s.closeImplied (Element.impliedNames.filter (· != name))).popThrough (·.id == e.id)
    else s
  | none => s

/-! ## Splitting formatting around a block -/

/-- Where the second half of a split element goes among the formatting: in place of the first half,
or right after another element. -/
inductive Slot where
  | inPlace
  | after (id : NodeId)

def replaceFormatting (entries : List Formatting) (id : NodeId) (entry : Formatting) :
    List Formatting :=
  entries.map fun
    | .marker => .marker
    | .element other tag => if other == id then entry else .element other tag

/-- Puts an entry right after, that is latest-first before, the one of an element. -/
def insertFormatting (entry : Formatting) (id : NodeId) : List Formatting → List Formatting
  | [] => []
  | .marker :: rest => .marker :: insertFormatting entry id rest
  | .element other tag :: rest =>
    if other == id then entry :: .element other tag :: rest
    else .element other tag :: insertFormatting entry id rest

/-- Goes outwards from the block over the elements between it and the formatting element. Those that
are formatting in force, three at most, are copied around what was gathered so far; the others are
closed. Gives the copies, innermost first, the gathered node and the slot. -/
def rebuildBetween (block : NodeId) : List Element → Nat → NodeId → Slot → State →
    List Element × NodeId × Slot × State
  | [], _, last, slot, s => ([], last, slot, s)
  | e :: rest, count, last, slot, s =>
    match if 3 < count + 1 then none else s.formattingTag? e.id with
    | none => rebuildBetween block rest (count + 1) last slot (s.removeFormatting e.id)
    | some tag =>
      let (copy, store) :=
        s.store.createElement .html tag.name (Space.html.attributes tag.attributes)
      let store := (store.detach last).append copy.id last
      let s := { s with
        store := store
        formatting := replaceFormatting s.formatting e.id (.element copy.id tag) }
      let slot := if last == block then .after copy.id else slot
      let (copies, last, slot, s) := rebuildBetween block rest (count + 1) copy.id slot s
      (copy :: copies, last, slot, s)

/-- Splits the formatting element `own` around the block: `inner` are the open elements within the
block, `between` those from it out to the formatting element, and `outer` those around that, all of
them innermost first. -/
def splitAround (s : State) (tag : Tag) (inner : List Element) (block : Element)
    (between : List Element) (own : Element) (outer : List Element) : State :=
  let (copies, last, slot, s) := rebuildBetween block.id between 0 block.id .inPlace s
  let s := { s with
    store := s.store.detach last
    stack := inner ++ block :: copies ++ own :: outer }
  let s := match outer with
    | [] => s
    | ancestor :: _ => s.putNode (s.placeIn ancestor) last
  let (half, store) := s.store.createElement .html tag.name (Space.html.attributes tag.attributes)
  let store := (store.moveChildren block.id half.id).append block.id half.id
  let entry := Formatting.element half.id tag
  let entries := match slot with
    | .inPlace => replaceFormatting s.formatting own.id entry
    | .after id => insertFormatting entry id s.formatting
  { s with
    store := store
    formatting := entries
    stack := inner ++ half :: block :: copies ++ outer }.removeFormatting own.id

/-- One round of closing the named formatting, and whether another round may follow. -/
def splitFormatting (s : State) (name : String) : State × Bool :=
  match s.liveFormatting.find? fun entry => entry.2.name == name with
  | none => (s.closeOrdinary name, false)
  | some (id, tag) =>
    if !s.isOpen id then (s.removeFormatting id, false)
    else if !searchScope Element.endsScope (·.id == id) s.stack then (s, false)
    else
      let above := s.stack.takeWhile (·.id != id)
      match s.stack.dropWhile (·.id != id), above.reverse.find? (·.isSpecial) with
      | [], _ => (s, false)
      | _ :: outer, none => ({ s with stack := outer }.removeFormatting id, false)
      | own :: outer, some block =>
        let inner := above.takeWhile (·.id != block.id)
        (s.splitAround tag inner block (above.drop (inner.length + 1)) own outer, true)

def splitRounds (name : String) : Nat → State → State
  | 0, s => s
  | rounds + 1, s =>
    match s.splitFormatting name with
    | (s, false) => s
    | (s, true) => splitRounds name rounds s

/-- Closes the named formatting element, splitting it around blocks up to eight times. -/
def closeFormatting (s : State) (name : String) : State :=
  match s.stack with
  | [] => s
  | e :: _ =>
    if e.isNamed name && (s.formattingTag? e.id).isNone then s.pop else splitRounds name 8 s

end HtmlComponent.Html.State
