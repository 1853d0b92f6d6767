import Mathlib.Data.List.Forall2
import HtmlComponent.Proofs.Attributes
import HtmlComponent.Proofs.Component.Module
import HtmlComponent.Proofs.Document.Mapping
import HtmlComponent.Proofs.Node.Traversal

/-!
# Event handlers have no influence

All handlers of a tag can be replaced by one that says nothing, and the module stays the same. What
two lists of events have in common apart from handlers is just what is left by that, so they give
one module.
-/

namespace HtmlComponent

open Component Component.Body

/-! ## Attributes and events that differ in handlers -/

namespace Attributes

/-- The attributes that are not handlers. -/
def shown (as : Attributes) : Attributes :=
  as.filter fun name => !isHandler name

/-- The two have the same attributes apart from handlers, in the same order, and none at all in both
cases or in neither. -/
def SameButHandlers (as bs : Attributes) : Prop :=
  as.shown.entries = bs.shown.entries ∧ as.isEmpty = bs.isEmpty

/-- The attributes with one handler, which says nothing, in place of all that there are. It is there
even if there was none, unless there are no attributes. -/
def quieted (as : Attributes) : Attributes :=
  if as.isEmpty then empty else as.shown.setIfNew "on" ""

theorem entries_quieted {as : Attributes} (h : as.isEmpty = false) :
    as.quieted.entries = as.shown.entries ++ [("on", "")] := by
  have hnew : "on" ∉ as.shown.names := by
    intro hmem
    rcases List.mem_map.mp hmem with ⟨e, he, hname⟩
    have hshown := (List.mem_filter.mp he).2
    rw [hname] at hshown
    exact absurd hshown (by decide)
  rw [quieted, h, if_neg Bool.false_ne_true, entries_setIfNew, if_neg hnew]

theorem isEmpty_quieted (as : Attributes) : as.quieted.isEmpty = as.isEmpty := by
  cases h : as.isEmpty with
  | true =>
    rw [quieted, h]
    rfl
  | false =>
    rw [isEmpty, entries_quieted h]
    simp

theorem SameButHandlers.quieted_eq {as bs : Attributes} (h : SameButHandlers as bs) :
    as.quieted = bs.quieted := by
  unfold quieted
  rw [h.2, ext_entries h.1]

theorem get?_quieted {name : String} (h : isHandler name = false) (as : Attributes) :
    as.quieted.get? name = as.get? name := by
  cases hempty : as.isEmpty with
  | true =>
    have hnil : as.entries = [] := List.isEmpty_iff.mp hempty
    rw [quieted, hempty, get?, get?, hnil]
    rfl
  | false =>
    have hon : (name == "on") = false := by
      rw [beq_eq_false_iff_ne]
      rintro rfl
      exact absurd h (by decide)
    have hshown : as.shown.get? name = as.get? name := get?_filter (by simp [h]) as
    rw [get?] at hshown
    rw [get?, entries_quieted hempty, List.lookup_append, hshown, List.lookup_cons, hon]
    simp

end Attributes

/-- The two are the same event, up to handlers of the tag that they open. -/
def Event.SameButHandlers : Event → Event → Prop
  | .openTag m as, .openTag n bs => m = n ∧ as.SameButHandlers bs
  | .text v, .text w => v = w
  | .closeTag, .closeTag => True
  | _, _ => False

theorem Event.SameButHandlers.mapAttributes_eq {e e' : Event} (h : e.SameButHandlers e') :
    e.mapAttributes Attributes.quieted = e'.mapAttributes Attributes.quieted := by
  match e, e', h with
  | .openTag m as, .openTag _ bs, ⟨rfl, has⟩ => rw [mapAttributes, mapAttributes, has.quieted_eq]
  | .text v, .text _, rfl => rfl
  | .closeTag, .closeTag, _ => rfl

theorem Event.map_mapAttributes_eq {es fs : List Event}
    (h : List.Forall₂ Event.SameButHandlers es fs) :
    es.map (Event.mapAttributes Attributes.quieted) =
      fs.map (Event.mapAttributes Attributes.quieted) := by
  induction h with
  | nil => rfl
  | cons hevent _ ih => rw [List.map_cons, List.map_cons, hevent.mapAttributes_eq, ih]

/-! ## Bodies and modules without handlers -/

namespace Component

namespace Body

theorem fields_quieted (as : Attributes) : fields as.quieted.entries = fields as.entries := by
  unfold fields
  congr 1
  cases hempty : as.isEmpty with
  | true =>
    have hnil : as.entries = [] := List.isEmpty_iff.mp hempty
    rw [Attributes.quieted, hempty, hnil]
    rfl
  | false =>
    have hon : [("on", "")].filter (fun e : String × String => !isHandler e.1) = [] := by decide
    rw [Attributes.entries_quieted hempty, List.filter_append, hon, List.append_nil,
      Attributes.shown, Attributes.filter, List.filter_filter]
    simp only [Bool.and_self]

theorem attributes_quieted (as : Attributes) : attributes as.quieted = attributes as := by
  rw [attributes, attributes, Attributes.isEmpty_quieted, fields_quieted]

theorem leadingAttributes_quieted (as : Attributes) :
    leadingAttributes as.quieted = leadingAttributes as := by
  rw [leadingAttributes, leadingAttributes, Attributes.isEmpty_quieted, attributes_quieted]

theorem map_node_mapAttributes {depth : Nat} {nodes : List Node} {f : Attributes → Attributes}
    (h : ∀ n ∈ nodes, node depth (n.mapAttributes f) = node depth n) :
    (nodes.map (Node.mapAttributes f)).map (node depth) = nodes.map (node depth) := by
  rw [List.map_map]
  exact List.map_congr_left h

theorem node_quieted (depth : Nat) (n : Node) :
    node depth (n.mapAttributes Attributes.quieted) = node depth n := by
  induction n using Node.induction generalizing depth with
  | root children ih =>
    have hchildren := map_node_mapAttributes fun n hn => ih n hn depth
    rw [Node.mapAttributes, Node.mapAttributesList_eq_map, node, node, nodes_eq_map, nodes_eq_map,
      hchildren]
  | text value => rfl
  | tag name as children ih =>
    have hchildren := map_node_mapAttributes fun n hn => ih n hn (depth + 1)
    cases children with
    | nil => rw [Node.mapAttributes, Node.mapAttributesList, node, node, attributes_quieted]
    | cons child rest =>
      simp only [List.map_cons] at hchildren
      simp only [Node.mapAttributes, Node.mapAttributesList, Node.mapAttributesList_eq_map, node,
        nodes_eq_map, leadingAttributes_quieted, hchildren]

end Body

theorem compile_quieted (d : Document) (options : Options) :
    compile (d.mapAttributes Attributes.quieted) options = compile d options := by
  have hbody : ofRoot (d.root.mapAttributes Attributes.quieted) = ofRoot d.root :=
    node_quieted 0 d.root
  rw [compile, compile, Document.mapAttributes, hbody]

theorem classTokens_quieted (as : Attributes) :
    Document.Builder.classTokens as.quieted = Document.Builder.classTokens as := by
  rw [Document.Builder.classTokens, Document.Builder.classTokens,
    Attributes.get?_quieted (by decide)]

/-- Lists of events that differ in handlers only are refused with one error, or have one module
whatever the options. -/
theorem compile_eq_of_sameButHandlers {es fs : List Event}
    (h : List.Forall₂ Event.SameButHandlers es fs) :
    (∃ e, Document.ofEvents es = .error e ∧ Document.ofEvents fs = .error e) ∨
    ∃ d d', Document.ofEvents es = .ok d ∧ Document.ofEvents fs = .ok d' ∧
      ∀ options, ∃ text, compile d options = .ok text ∧ compile d' options = .ok text := by
  have hes := Document.ofEvents_mapAttributes classTokens_quieted es
  have hfs := Document.ofEvents_mapAttributes classTokens_quieted fs
  rw [Event.map_mapAttributes_eq h, hfs] at hes
  -- now the two results are one once they are quieted, errors included
  match hd : Document.ofEvents es, hd' : Document.ofEvents fs with
  | .error e, .error e' =>
    rw [hd, hd'] at hes
    cases hes
    exact .inl ⟨e, rfl, rfl⟩
  | .error _, .ok _ | .ok _, .error _ =>
    rw [hd, hd'] at hes
    cases hes
  | .ok d, .ok d' =>
    rw [hd, hd'] at hes
    have hquieted := Except.ok.inj hes
    refine .inr ⟨d, d', rfl, rfl, fun options => ?_⟩
    have hcompile : compile d' options = compile d options := by
      rw [← compile_quieted d', ← compile_quieted d, hquieted]
    rcases exists_compile_eq_moduleText options with ⟨constant, htext⟩
    exact ⟨_, htext d, hcompile.trans (htext d)⟩

/-- A tag with a class among its handlers and one with nothing else, around a text. -/
def clickEvents : List Event :=
  [.openTag "div" (.ofPairs [("onclick", "f()"), ("class", "a"), ("id", "x")]),
    .openTag "p" (.ofPairs [("one", "1")]), .text "t", .closeTag]

def loadEvents : List Event :=
  [.openTag "div" (.ofPairs [("class", "a"), ("onload", "g()"), ("id", "x"), ("on", "")]),
    .openTag "p" (.ofPairs [("onclick", "f()"), ("onload", "g()")]), .text "t", .closeTag]

theorem clickEvents_compile_eq_loadEvents :
    List.Forall₂ Event.SameButHandlers clickEvents loadEvents ∧
    ∃ d d', Document.ofEvents clickEvents = .ok d ∧ Document.ofEvents loadEvents = .ok d' ∧
      ∀ options, ∃ text, compile d options = .ok text ∧ compile d' options = .ok text := by
  have h : List.Forall₂ Event.SameButHandlers clickEvents loadEvents := by
    refine .cons ⟨rfl, ?_, rfl⟩ (.cons ⟨rfl, ?_, rfl⟩ (.cons rfl (.cons trivial .nil)))
    · decide +kernel
    · decide +kernel
  refine ⟨h, ?_⟩
  rcases compile_eq_of_sameButHandlers h with ⟨e, herror, -⟩ | hok
  · cases herror
  · exact hok

end Component

end HtmlComponent
