import HtmlComponent.Proofs.Document.Stack
import HtmlComponent.Proofs.NameSet
import HtmlComponent.Proofs.Text.Words

/-!
# The names of a document

A builder collects names as tags open, long before the tree is there. Still the names that it ends
with are those of the tree, in preorder: at any time they are those of the events of its stack.
-/

namespace HtmlComponent

/-! ## Tags of trees and of events -/

/-- The words of the class attribute: what stands between the blanks of its value. -/
def Attributes.classWords (as : Attributes) : List String :=
  match as.entries.lookup "class" with
  | none => []
  | some value => ((value.toList.splitOnP Text.isBlank).filter Text.isPresent).map String.ofList

theorem Document.Builder.classTokens_eq_classWords : classTokens = Attributes.classWords := by
  funext as
  unfold classTokens Attributes.classWords Attributes.get?
  cases as.entries.lookup "class" with
  | none => rfl
  | some value => exact Text.words_eq_splitOnP value

namespace Node

/-- The name and attributes of a tag. -/
def tag? : Node → Option (String × Attributes)
  | .tag name attributes _ => some (name, attributes)
  | _ => none

/-- The names of all tags of a tree in preorder. -/
def tagNames (node : Node) : List String :=
  (node.preorder.filterMap tag?).map Prod.fst

/-- The class tokens of all tags of a tree in preorder. -/
def classTokens (node : Node) : List String :=
  (node.preorder.filterMap tag?).flatMap fun t => t.2.classWords

theorem classTokens_eq_flatMap (node : Node) :
    node.classTokens =
      (node.preorder.filterMap tag?).flatMap fun t => Document.Builder.classTokens t.2 := by
  rw [classTokens, Document.Builder.classTokens_eq_classWords]

end Node

namespace Event

/-- The name and attributes of a tag that opens. -/
def tag? : Event → Option (String × Attributes)
  | .openTag name attributes => some (name, attributes)
  | _ => none

def tags (events : List Event) : List (String × Attributes) :=
  events.filterMap tag?

theorem tags_append (events events' : List Event) :
    tags (events ++ events') = tags events ++ tags events' :=
  List.filterMap_append

theorem tags_replicate_closeTag (n : Nat) : tags (List.replicate n .closeTag) = [] := by
  rw [tags, List.filterMap_eq_nil_iff]
  intro event hevent
  rw [List.eq_of_mem_replicate hevent]
  rfl

end Event

theorem Node.filterMap_tag?_listPreorder {nodes : List Node}
    (h : ∀ n ∈ nodes, n.preorder.filterMap tag? = Event.tags n.events) :
    (listPreorder nodes).filterMap tag? = Event.tags (listEvents nodes) := by
  induction nodes with
  | nil => rfl
  | cons node rest ih =>
    rw [List.forall_mem_cons] at h
    rw [listPreorder, listEvents, List.filterMap_append, Event.tags_append, h.1, ih h.2]

/-- Tags open in preorder. -/
theorem Node.filterMap_tag?_preorder (node : Node) :
    node.preorder.filterMap tag? = Event.tags node.events := by
  induction node using Node.induction with
  | root children ih =>
    rw [preorder, events, List.filterMap_cons_none rfl]
    exact filterMap_tag?_listPreorder ih
  | tag name attributes children ih =>
    have htag : tag? (.tag name attributes children) = some (name, attributes) := rfl
    rw [preorder, events, List.filterMap_cons_some htag, filterMap_tag?_listPreorder ih]
    simp [Event.tags, Event.tag?]
  | text value => rfl

namespace Document.Builder

/-! ## One event -/

/-- The names in a builder are those of the tags on its stack and below. -/
structure Named (b : Builder) : Prop where
  wellFormed : WellFormed b.stack
  elements_eq : b.elements.names =
    (seededElements ++ (Event.tags (stackEvents b.stack)).map Prod.fst).eraseDups
  styles_eq : b.styles.names =
    ((Event.tags (stackEvents b.stack)).flatMap fun t => classTokens t.2).eraseDups

theorem named_new : Named new where
  wellFormed := wellFormed_new
  elements_eq := NameSet.names_ofList seededElements
  styles_eq := rfl

/-- An event that is taken adds the names of the tag that it opens, and no others. -/
theorem names_push {b b' : Builder} {event : Event} (h : b.push event = .ok b') :
    b'.elements = b.elements.insertMany ((Event.tags (Event.settle [event])).map Prod.fst) ∧
    b'.styles = b.styles.insertMany
      ((Event.tags (Event.settle [event])).flatMap fun t => classTokens t.2) := by
  cases event with
  | openTag name attributes =>
    cases h
    refine ⟨rfl, ?_⟩
    simp [Event.settle, Event.settled?, Event.tags, Event.tag?, openTag]
  | text value =>
    cases h
    have hnone : Event.tags (Event.settle [.text value]) = [] := by
      by_cases hblank : Text.blank value = true <;>
        simp [Event.settle, Event.settled?, Event.tags, Event.tag?, hblank]
    rw [hnone, text]
    repeat' split
    all_goals exact ⟨rfl, rfl⟩
  | closeTag =>
    rw [push, closeTag] at h
    split at h
    · cases h
      exact ⟨rfl, rfl⟩
    · cases h

theorem Named.push {b b' : Builder} {event : Event} (hb : Named b) (h : b.push event = .ok b')
    (htook : Took b [event] b') : Named b' := by
  rcases names_push h with ⟨helements, hstyles⟩
  refine ⟨htook.wellFormed, ?_, ?_⟩
  · rw [helements, NameSet.names_insertMany_of_eq hb.elements_eq, htook.events_eq,
      Event.tags_append, List.map_append, List.append_assoc]
  · rw [hstyles, NameSet.names_insertMany_of_eq hb.styles_eq, htook.events_eq, Event.tags_append,
      List.flatMap_append]

/-! ## Runs -/

theorem Named.pushOrKeep {b : Builder} (hb : Named b) (event : Event) :
    Named (b.pushOrKeep event) := by
  unfold Builder.pushOrKeep
  rcases push_cases hb.wellFormed event with ⟨b', hpush, htook⟩ | ⟨-, -, hpush⟩
  · rw [hpush]
    exact hb.push hpush htook
  · -- a close that is refused leaves the builder as it was
    rw [hpush]
    exact hb

theorem Named.foldl_pushOrKeep {b : Builder} (hb : Named b) (events : List Event) :
    Named (events.foldl Builder.pushOrKeep b) := by
  induction events generalizing b with
  | nil => exact hb
  | cons event rest ih => exact ih (hb.pushOrKeep event)

/-- Closing the tags that are still open opens no further ones. -/
theorem Named.tags_finish {b : Builder} (hb : Named b) :
    b.finish.root.preorder.filterMap Node.tag? = Event.tags (stackEvents b.stack) := by
  rcases List.exists_cons_of_ne_nil hb.wellFormed.ne_nil with ⟨top, rest, hstack⟩
  have hwell := hb.wellFormed
  rw [hstack] at hwell
  rcases closeAll_spec hwell with ⟨children, hroot, -, hevents⟩
  rw [Node.filterMap_tag?_preorder, finish, hstack, hroot, Node.events, hevents, Event.tags_append,
    Event.tags_replicate_closeTag, List.append_nil]

/-- Whatever is pushed into a builder, and whatever of it is refused, the names of the finished
document are exactly those of its tree. -/
theorem finish_names (events : List Event) :
    let d := (events.foldl Builder.pushOrKeep new).finish
    d.elements.names = (["cpt", "shadow"] ++ d.root.tagNames).eraseDups ∧
      d.styles.names = d.root.classTokens.eraseDups := by
  have hnamed := named_new.foldl_pushOrKeep events
  have htags := hnamed.tags_finish
  refine ⟨?_, ?_⟩
  · rw [Node.tagNames, htags]
    exact hnamed.elements_eq
  · rw [Node.classTokens_eq_flatMap, htags]
    exact hnamed.styles_eq

theorem foldl_pushOrKeep_of_pushAll {b b' : Builder} {events : List Event}
    (h : b.pushAll events = .ok b') : events.foldl Builder.pushOrKeep b = b' := by
  induction events generalizing b with
  | nil => exact Except.ok.inj h
  | cons event rest ih =>
    rw [pushAll] at h
    rw [List.foldl_cons, Builder.pushOrKeep]
    cases hpush : b.push event with
    | error e =>
      rw [hpush] at h
      cases h
    | ok next =>
      rw [hpush] at h
      exact ih h

end Document.Builder

/-! ## Built documents -/

namespace Document

open Builder

/-- A document that is built comes from a builder that has taken all events. -/
theorem exists_builder_of_ofEvents {events : List Event} {d : Document}
    (h : ofEvents events = .ok d) :
    ∃ b, Took new events b ∧ Named b ∧ b.finish = d := by
  rcases pushAll_cases wellFormed_new events with ⟨-, b, hrun, htook⟩ | ⟨-, hrun⟩
  · rw [ofEvents, hrun] at h
    refine ⟨b, htook, ?_, Except.ok.inj h⟩
    exact foldl_pushOrKeep_of_pushAll hrun ▸ named_new.foldl_pushOrKeep events
  · rw [ofEvents, hrun] at h
    cases h

theorem elements_ofEvents {events : List Event} {d : Document} (h : ofEvents events = .ok d) :
    d.elements.names = (seededElements ++ d.root.tagNames).eraseDups := by
  rcases exists_builder_of_ofEvents h with ⟨b, -, hnamed, rfl⟩
  rw [Node.tagNames, hnamed.tags_finish]
  exact hnamed.elements_eq

theorem styles_ofEvents {events : List Event} {d : Document} (h : ofEvents events = .ok d) :
    d.styles.names = d.root.classTokens.eraseDups := by
  rcases exists_builder_of_ofEvents h with ⟨b, -, hnamed, rfl⟩
  rw [Node.classTokens_eq_flatMap, hnamed.tags_finish]
  exact hnamed.styles_eq

/-- The tags of the tree are those that the events open, in lower case. -/
theorem exists_openTag_of_mem_tagNames {events : List Event} {d : Document}
    (h : ofEvents events = .ok d) {name : String} (hname : name ∈ d.root.tagNames) :
    ∃ given attributes, .openTag given attributes ∈ events ∧ Text.lower given = name := by
  rcases exists_builder_of_ofEvents h with ⟨b, htook, hnamed, rfl⟩
  rw [Node.tagNames, hnamed.tags_finish, htook.events_eq] at hname
  rcases List.mem_map.mp hname with ⟨⟨_, attributes⟩, htag, rfl⟩
  rcases List.mem_filterMap.mp htag with ⟨settled, hsettled, hopen⟩
  rcases List.mem_filterMap.mp hsettled with ⟨event, hevent, hsettle⟩
  cases event with
  | openTag given as =>
    cases hsettle
    cases hopen
    exact ⟨given, attributes, hevent, rfl⟩
  | text value =>
    rw [Event.settled?] at hsettle
    split at hsettle
    · cases hsettle
    · cases hsettle
      cases hopen
  | closeTag =>
    cases hsettle
    cases hopen

end Document

end HtmlComponent
