import HtmlComponent.Document.Builder

/-!
# Changing attributes before and after building

A builder looks at attributes only for the words of their class. So a change of attributes that
keeps these can be made in the events or in the finished tree, with the same result.
-/

namespace HtmlComponent

namespace Node

mutual

/-- The tree with the attributes of all tags changed. -/
def mapAttributes (f : Attributes → Attributes) : Node → Node
  | .root children => .root (mapAttributesList f children)
  | .tag name attributes children => .tag name (f attributes) (mapAttributesList f children)
  | .text value => .text value

def mapAttributesList (f : Attributes → Attributes) : List Node → List Node
  | [] => []
  | child :: rest => child.mapAttributes f :: mapAttributesList f rest

end

theorem mapAttributesList_eq_map (f : Attributes → Attributes) (nodes : List Node) :
    mapAttributesList f nodes = nodes.map (mapAttributes f) := by
  induction nodes with
  | nil => rfl
  | cons node rest ih => rw [mapAttributesList, ih, List.map_cons]

theorem mapAttributes_addChild (f : Attributes → Attributes) (node child : Node) :
    (node.addChild child).mapAttributes f =
      (node.mapAttributes f).addChild (child.mapAttributes f) := by
  cases node with
  | text value => rfl
  | root children | tag name attributes children =>
    simp only [addChild, mapAttributes, mapAttributesList_eq_map, List.map_append, List.map_cons,
      List.map_nil]

end Node

/-- The event with the attributes of the tag that it opens changed. -/
def Event.mapAttributes (f : Attributes → Attributes) : Event → Event
  | .openTag name attributes => .openTag name (f attributes)
  | .text value => .text value
  | .closeTag => .closeTag

namespace Document

def mapAttributes (f : Attributes → Attributes) (d : Document) : Document :=
  ⟨d.root.mapAttributes f, d.styles, d.elements⟩

namespace Builder

def mapAttributes (f : Attributes → Attributes) (b : Builder) : Builder :=
  ⟨b.stack.map (Node.mapAttributes f), b.styles, b.elements⟩

variable {f : Attributes → Attributes}

theorem text_mapAttributes (b : Builder) (value : String) :
    (b.mapAttributes f).text value = (b.text value).mapAttributes f := by
  unfold text
  by_cases hblank : Text.blank value = true
  · rw [if_pos hblank, if_pos hblank]
  · rw [if_neg hblank, if_neg hblank]
    cases hstack : b.stack with
    | nil => simp only [mapAttributes, hstack, List.map_nil]
    | cons top rest =>
      simp only [mapAttributes, hstack, List.map_cons, Node.mapAttributes_addChild]
      rfl

theorem closeTag_mapAttributes (b : Builder) :
    (b.mapAttributes f).closeTag = (b.closeTag).map (mapAttributes f) := by
  unfold closeTag
  match hstack : b.stack with
  | [] => simp only [mapAttributes, hstack, List.map_nil, Except.map]
  | [top] => simp only [mapAttributes, hstack, List.map_cons, List.map_nil, Except.map]
  | top :: parent :: rest =>
    simp only [mapAttributes, hstack, List.map_cons, Except.map, Node.mapAttributes_addChild]

theorem push_mapAttributes (hf : ∀ as, classTokens (f as) = classTokens as) (b : Builder)
    (event : Event) :
    (b.mapAttributes f).push (event.mapAttributes f) = (b.push event).map (mapAttributes f) := by
  cases event with
  | openTag name attributes =>
    -- the styles come from the words of the class, which the change keeps
    simp only [push, Event.mapAttributes, openTag, hf, Except.map, mapAttributes]
    rfl
  | text value => exact congrArg Except.ok (text_mapAttributes b value)
  | closeTag => exact closeTag_mapAttributes b

theorem pushAll_mapAttributes (hf : ∀ as, classTokens (f as) = classTokens as) (b : Builder)
    (events : List Event) :
    (b.mapAttributes f).pushAll (events.map (Event.mapAttributes f)) =
      (b.pushAll events).map (mapAttributes f) := by
  induction events generalizing b with
  | nil => rfl
  | cons event rest ih =>
    rw [List.map_cons, pushAll, pushAll, push_mapAttributes hf]
    cases b.push event with
    | error e => rfl
    | ok b' => exact ih b'

theorem closeAll_mapAttributes (stack : List Node) :
    closeAll (stack.map (Node.mapAttributes f)) = (closeAll stack).mapAttributes f := by
  cases stack with
  | nil => rfl
  | cons top rest =>
    rw [List.map_cons, closeAll, closeAll]
    induction rest generalizing top with
    | nil => rfl
    | cons parent rest ih =>
      rw [List.map_cons, List.foldl_cons, List.foldl_cons, ← Node.mapAttributes_addChild, ih]

end Builder

/-- Building commutes with a change of attributes that keeps the words of their class. -/
theorem ofEvents_mapAttributes {f : Attributes → Attributes}
    (hf : ∀ as, Builder.classTokens (f as) = Builder.classTokens as) (events : List Event) :
    ofEvents (events.map (Event.mapAttributes f)) = (ofEvents events).map (mapAttributes f) := by
  have hrun := Builder.pushAll_mapAttributes hf Builder.new events
  have hnew : Builder.new.mapAttributes f = Builder.new := rfl
  rw [hnew] at hrun
  rw [ofEvents, ofEvents, hrun]
  cases Builder.new.pushAll events with
  | error e => rfl
  | ok b =>
    simp only [Except.map, Builder.finish, Builder.mapAttributes, mapAttributes,
      Builder.closeAll_mapAttributes]

end Document

end HtmlComponent
