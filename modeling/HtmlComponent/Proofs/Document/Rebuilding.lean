import HtmlComponent.Proofs.Document.Events
import HtmlComponent.Proofs.Document.Names
import HtmlComponent.Proofs.Text.Casing

/-!
# Building a document again

A built tree has no blank text in it, all its tags are in lower case, and none is left open. So a
builder that is given the events of the tree finds nothing to drop, to change or to close: it comes
to the same tree, and with the tree to the same names.
-/

namespace HtmlComponent.Document

open Builder

/-- A builder takes the node as it is: a tag with its name in lower case, or a text that is not
blank. -/
def Stable : Node → Prop
  | .root _ => False
  | .tag name _ _ => Text.lower name = name
  | .text value => Text.blank value = false

/-! ## Trees that are taken as they are -/

theorem adds_listEvents {nodes : List Node} (h : ∀ n ∈ nodes, Adds n.events [n]) :
    Adds (Node.listEvents nodes) nodes := by
  induction nodes with
  | nil => exact .nil
  | cons node rest ih =>
    rw [List.forall_mem_cons] at h
    exact h.1.append (ih h.2)

theorem adds_events {n : Node} (h : ∀ m ∈ n.preorder, Stable m) : Adds n.events [n] := by
  induction n using Node.induction with
  | root children => exact absurd (h _ (Node.mem_preorder_self _)) id
  | text value =>
    have hblank : Text.blank value = false := h _ (Node.mem_preorder_self _)
    have hadds := adds_text value
    rw [hblank] at hadds
    exact hadds
  | tag name attributes children ih =>
    have hname : Text.lower name = name := h _ (Node.mem_preorder_self _)
    have hchildren : Adds (Node.listEvents children) children := by
      apply adds_listEvents
      intro child hchild
      apply ih child hchild
      intro m hm
      exact h m (Node.mem_preorder_of_child hchild hm)
    have hadds := hchildren.tag name attributes
    rw [hname] at hadds
    exact hadds

theorem exists_ofEvents_listEvents {children : List Node}
    (h : ∀ m ∈ (Node.root children).descendants, Stable m) :
    ∃ d, ofEvents (Node.listEvents children) = .ok d ∧ d.root = .root children := by
  have hadds : Adds (Node.listEvents children) children := by
    apply adds_listEvents
    intro child hchild
    apply adds_events
    intro m hm
    exact h m (Node.mem_descendants.mpr ⟨child, hchild, hm⟩)
  rcases hadds.exists_finished with ⟨b, -, -, hdocument, hroot⟩
  exact ⟨b.finish, hdocument, hroot⟩

/-- Trees that are taken as they are can be told apart by their events. -/
theorem eq_of_listEvents_eq {cs ds : List Node}
    (hc : ∀ m ∈ (Node.root cs).descendants, Stable m)
    (hd : ∀ m ∈ (Node.root ds).descendants, Stable m)
    (h : Node.listEvents cs = Node.listEvents ds) : cs = ds := by
  rcases exists_ofEvents_listEvents hc with ⟨d, hok, hroot⟩
  rcases exists_ofEvents_listEvents hd with ⟨d', hok', hroot'⟩
  rw [h, hok', Except.ok.injEq] at hok
  rw [← hok, hroot', Node.root.injEq] at hroot
  exact hroot.symm

/-! ## Built documents -/

theorem lower_of_mem_tagNames {events : List Event} {d : Document} (h : ofEvents events = .ok d)
    {name : String} (hname : name ∈ d.root.tagNames) : Text.lower name = name := by
  rcases exists_openTag_of_mem_tagNames h hname with ⟨given, attributes, -, rfl⟩
  exact Text.lower_lower given

theorem exists_root_of_ofEvents {events : List Event} {d : Document}
    (h : ofEvents events = .ok d) :
    ∃ children, d.root = .root children ∧ (∀ m ∈ (Node.root children).descendants, Stable m) ∧
      Node.listEvents children = Event.settle events ++
        List.replicate (Event.opens events - Event.closes events) .closeTag := by
  rcases exists_builder_of_ofEvents h with ⟨b, htook, -, hfinish⟩
  rcases finish_of_took htook with ⟨children, hroot, hsettled, hevents⟩
  rw [hfinish] at hroot
  refine ⟨children, hroot, fun m hm => ?_, hevents⟩
  have hm' := hsettled m hm
  cases m with
  | root inner => exact hm'
  | text value => exact hm'
  | tag name attributes inner =>
    -- a builder puts no other names into its tree
    apply lower_of_mem_tagNames h
    rw [hroot]
    have htag : Node.tag name attributes inner ∈ (Node.root children).preorder := by
      rw [Node.preorder_eq_cons]
      exact List.mem_cons_of_mem _ hm
    have hpair : (name, attributes) ∈ (Node.root children).preorder.filterMap Node.tag? :=
      List.mem_filterMap.mpr ⟨_, htag, rfl⟩
    exact List.mem_map_of_mem hpair

/-- The names of a built document are those of its tree, so the tree is all there is to it. -/
theorem eq_of_root_eq {events events' : List Event} {d d' : Document}
    (h : ofEvents events = .ok d) (h' : ofEvents events' = .ok d') (hroot : d.root = d'.root) :
    d = d' := by
  have hstyles : d.styles = d'.styles := by
    apply NameSet.ext_names
    rw [styles_ofEvents h, styles_ofEvents h', hroot]
  have helements : d.elements = d'.elements := by
    apply NameSet.ext_names
    rw [elements_ofEvents h, elements_ofEvents h', hroot]
  cases d
  cases d'
  rw [Document.mk.injEq]
  exact ⟨hroot, hstyles, helements⟩

/-- Building is idempotent: the events of a built tree give the same document, with the same names
in the same order. -/
theorem ofEvents_listEvents_children {events : List Event} {d : Document}
    (h : ofEvents events = .ok d) : ofEvents (Node.listEvents d.root.children) = .ok d := by
  rcases exists_root_of_ofEvents h with ⟨children, hroot, hstable, -⟩
  rcases exists_ofEvents_listEvents hstable with ⟨d', hok, hroot'⟩
  have heq : d' = d := eq_of_root_eq hok h (hroot'.trans hroot.symm)
  rw [hroot]
  show ofEvents (Node.listEvents children) = .ok d
  rw [hok, heq]

/-- Capital sigmas inside and at the end of a word, a dotted capital I, a blank text, a class that
repeats a name, and two tags that are left open. -/
def capitalEvents : List Event :=
  [.openTag "ΣΑΣ" (.ofPairs [("id", "\u00c9"), ("class", "b a b")]), .text " \n", .text " Σ ",
    .openTag "\u0130-CPT" .empty, .closeTag, .openTag "Cpt" (.ofPairs [("class", "c a")])]

theorem capitalEvents_rebuilt :
    ∃ d, ofEvents capitalEvents = .ok d ∧
      d.root.tagNames = ["σας", "i\u0307-cpt", "cpt"] ∧
      d.elements.names = ["cpt", "shadow", "σας", "i\u0307-cpt"] ∧
      ofEvents (Node.listEvents d.root.children) = .ok d := by
  have hd : ofEvents capitalEvents = .ok _ := rfl
  exact ⟨_, hd, by decide +kernel, by decide +kernel, ofEvents_listEvents_children hd⟩

end HtmlComponent.Document
