import Mathlib.Data.List.Infix
import HtmlComponent.Component.Body
import HtmlComponent.Proofs.Document.Rebuilding

/-!
# Documents one after another

Events that close every tag they open leave a builder with nothing but its root open, so what comes
behind them is built as if it had come first. The document of the whole has the trees of both parts
side by side, the names of the first part and then those of the second that are new, and the two
bodies with a comma between them.
-/

namespace HtmlComponent

/-- No first part closes more tags than it opens, and the whole closes them all. -/
def Event.Balanced (events : List Event) : Prop :=
  (∀ p, p <+: events → closes p ≤ opens p) ∧ closes events = opens events

instance (events : List Event) : Decidable (Event.Balanced events) :=
  decidable_of_iff ((∀ p ∈ events.inits, Event.closes p ≤ Event.opens p) ∧
    Event.closes events = Event.opens events) (by simp only [Event.Balanced, List.mem_inits])

/-! ## Tags of trees side by side -/

namespace Node

theorem filterMap_tag?_root_append (cs ds : List Node) :
    (Node.root (cs ++ ds)).preorder.filterMap tag? =
      (Node.root cs).preorder.filterMap tag? ++ (Node.root ds).preorder.filterMap tag? := by
  simp only [preorder, List.filterMap_cons_none (show tag? (.root _) = none from rfl),
    listPreorder_eq_flatMap, List.flatMap_append, List.filterMap_append]

theorem tagNames_root_append (cs ds : List Node) :
    (Node.root (cs ++ ds)).tagNames = (Node.root cs).tagNames ++ (Node.root ds).tagNames := by
  rw [tagNames, filterMap_tag?_root_append, List.map_append, tagNames, tagNames]

theorem classTokens_root_append (cs ds : List Node) :
    (Node.root (cs ++ ds)).classTokens =
      (Node.root cs).classTokens ++ (Node.root ds).classTokens := by
  rw [classTokens, filterMap_tag?_root_append, List.flatMap_append, classTokens, classTokens]

end Node

namespace Component.Body

theorem ofRoot_append {cs ds : List Node} (hcs : cs ≠ []) (hds : ds ≠ []) :
    ofRoot (.root (cs ++ ds)) = ofRoot (.root cs) ++ ",\n" ++ ofRoot (.root ds) := by
  simp only [ofRoot, node, nodes_eq_map, List.map_append]
  apply Text.joinWith_append
  · simpa using hcs
  · simpa using hds

end Component.Body

namespace Document

open Builder

/-! ## Building on -/

theorem exists_ofEvents_append {es₁ es₂ : List Event} {d₂ : Document} (h₁ : Event.Balanced es₁)
    (h₂ : ofEvents es₂ = .ok d₂) :
    ∃ d₁ d, ofEvents es₁ = .ok d₁ ∧ ofEvents (es₁ ++ es₂) = .ok d := by
  rcases ofEvents_cases es₁ with ⟨-, b₁, hrun₁, htook₁, hok₁⟩ | ⟨hnot, -⟩
  · have hlength : b₁.stack.length = new.stack.length := by
      have := htook₁.length_eq
      have := h₁.2
      omega
    have hcovers : Covers b₁ es₂ := by
      unfold Covers
      rw [hlength]
      rcases ofEvents_cases es₂ with ⟨hcovers, -⟩ | ⟨-, herror⟩
      · exact hcovers
      · rw [h₂] at herror
        cases herror
    rcases pushAll_cases htook₁.wellFormed es₂ with ⟨-, b, hrun, -⟩ | ⟨hnot, -⟩
    · refine ⟨b₁.finish, b.finish, hok₁, ?_⟩
      rw [ofEvents, pushAll_append, hrun₁]
      simp only [hrun]
    · exact absurd hcovers hnot
  · exact absurd (covers_new.mpr h₁.1) hnot

theorem root_ofEvents_append {es₁ es₂ : List Event} {d₁ d₂ d : Document}
    (hbalanced : Event.Balanced es₁) (h₁ : ofEvents es₁ = .ok d₁) (h₂ : ofEvents es₂ = .ok d₂)
    (h : ofEvents (es₁ ++ es₂) = .ok d) :
    d.root = .root (d₁.root.children ++ d₂.root.children) := by
  rcases exists_root_of_ofEvents h₁ with ⟨cs, hroot₁, hstable₁, hevents₁⟩
  rcases exists_root_of_ofEvents h₂ with ⟨ds, hroot₂, hstable₂, hevents₂⟩
  rcases exists_root_of_ofEvents h with ⟨es, hroot, hstable, hevents⟩
  have hopen₁ : Event.opens es₁ - Event.closes es₁ = 0 := by
    have := hbalanced.2
    omega
  have hopen : Event.opens (es₁ ++ es₂) - Event.closes (es₁ ++ es₂) =
      Event.opens es₂ - Event.closes es₂ := by
    have := hbalanced.2
    simp only [Event.opens, Event.closes, List.countP_append] at this ⊢
    omega
  have hboth : ∀ m ∈ (Node.root (cs ++ ds)).descendants, Stable m := by
    intro m hm
    rcases Node.mem_descendants.mp hm with ⟨child, hchild, hm⟩
    rcases List.mem_append.mp hchild with hchild | hchild
    · exact hstable₁ m (Node.mem_descendants.mpr ⟨child, hchild, hm⟩)
    · exact hstable₂ m (Node.mem_descendants.mpr ⟨child, hchild, hm⟩)
  -- the two trees side by side have the events of the whole
  have heq : Node.listEvents es = Node.listEvents (cs ++ ds) := by
    rw [Node.listEvents_eq_flatMap (cs ++ ds), List.flatMap_append, ← Node.listEvents_eq_flatMap,
      ← Node.listEvents_eq_flatMap, hevents, hevents₁, hevents₂, hopen, hopen₁, Event.settle,
      List.filterMap_append]
    simp only [Event.settle, List.replicate_zero, List.append_nil, List.append_assoc]
  rw [hroot, hroot₁, hroot₂, eq_of_listEvents_eq hstable hboth heq]
  rfl

/-- Behind balanced events a document is built as on its own: the trees come side by side, the names
of the second follow as far as they are new, and the bodies are joined. -/
theorem ofEvents_append {es₁ es₂ : List Event} {d₂ : Document} (hbalanced : Event.Balanced es₁)
    (h₂ : ofEvents es₂ = .ok d₂) :
    ∃ d₁ d, ofEvents es₁ = .ok d₁ ∧ ofEvents (es₁ ++ es₂) = .ok d ∧
      d.root = .root (d₁.root.children ++ d₂.root.children) ∧
      d.elements.names = d₁.elements.names ++
        d₂.elements.names.filter (fun name => !d₁.elements.names.contains name) ∧
      d.styles.names = d₁.styles.names ++
        d₂.styles.names.filter (fun name => !d₁.styles.names.contains name) ∧
      Component.Body.ofRoot d.root =
        match d₁.root.children, d₂.root.children with
        | [], [] => ""
        | _ :: _, [] => Component.Body.ofRoot d₁.root
        | [], _ :: _ => Component.Body.ofRoot d₂.root
        | _ :: _, _ :: _ =>
          Component.Body.ofRoot d₁.root ++ ",\n" ++ Component.Body.ofRoot d₂.root := by
  rcases exists_ofEvents_append hbalanced h₂ with ⟨d₁, d, h₁, h⟩
  have hroot := root_ofEvents_append hbalanced h₁ h₂ h
  rcases exists_root_of_ofEvents h₁ with ⟨cs, hcs, -⟩
  rcases exists_root_of_ofEvents h₂ with ⟨ds, hds, -⟩
  refine ⟨d₁, d, h₁, h, hroot, ?_, ?_, ?_⟩
  · rw [elements_ofEvents h, elements_ofEvents h₁, elements_ofEvents h₂, hroot, hcs, hds,
      Node.children, Node.children, Node.tagNames_root_append]
    exact NameSet.eraseDups_append_of_seeded _ _ _
  · rw [styles_ofEvents h, styles_ofEvents h₁, styles_ofEvents h₂, hroot, hcs, hds, Node.children,
      Node.children, Node.classTokens_root_append]
    exact NameSet.eraseDups_append_of_seeded [] _ _
  · rw [hroot, hcs, hds, Node.children, Node.children]
    cases cs with
    | nil => cases ds <;> rfl
    | cons c cs =>
      cases ds with
      | nil => rw [List.append_nil]
      | cons c' ds =>
        exact Component.Body.ofRoot_append (List.cons_ne_nil c cs) (List.cons_ne_nil c' ds)

def headEvents : List Event :=
  [.openTag "P" (.ofPairs [("class", "a b")]), .text "x", .closeTag, .text "y"]

/-- Three tags that are left open, of which only the first has a new name. -/
def tailEvents : List Event :=
  [.openTag "q" (.ofPairs [("class", "c b")]), .openTag "p" .empty, .text " ",
    .openTag "cpt" .empty]

theorem headEvents_ofEvents_append :
    Event.Balanced headEvents ∧ ∃ d₁ d₂ d, ofEvents headEvents = .ok d₁ ∧
      ofEvents tailEvents = .ok d₂ ∧ ofEvents (headEvents ++ tailEvents) = .ok d ∧
      d.root = .root (d₁.root.children ++ d₂.root.children) ∧
      d.elements.names = ["cpt", "shadow", "p", "q"] ∧ d.styles.names = ["a", "b", "c"] ∧
      Component.Body.ofRoot d.root =
        Component.Body.ofRoot d₁.root ++ ",\n" ++ Component.Body.ofRoot d₂.root := by
  have hbalanced : Event.Balanced headEvents := by decide
  have hhead : ofEvents headEvents = .ok _ := rfl
  have htail : ofEvents tailEvents = .ok _ := rfl
  rcases ofEvents_append hbalanced htail with ⟨d₁, d, h₁, h, hroot, helements, hstyles, hbody⟩
  cases h₁
  refine ⟨hbalanced, _, _, d, hhead, htail, h, hroot, ?_, ?_, hbody⟩
  · rw [helements]
    decide +kernel
  · rw [hstyles]
    decide +kernel

end Document

end HtmlComponent
