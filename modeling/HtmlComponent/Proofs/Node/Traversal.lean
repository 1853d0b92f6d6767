import HtmlComponent.Event
import HtmlComponent.Node

/-!
# Walking a tree

The nodes of a tree in preorder, and the events that describe it.
-/

namespace HtmlComponent.Node

/-- Proof by cases on a node, with the claim at hand for each of its children. -/
@[elab_as_elim]
theorem induction {motive : Node → Prop}
    (root : ∀ children, (∀ child ∈ children, motive child) → motive (.root children))
    (tag : ∀ name attributes children, (∀ child ∈ children, motive child) →
      motive (.tag name attributes children))
    (text : ∀ value, motive (.text value)) (node : Node) : motive node :=
  @Node.rec motive (fun children => ∀ child ∈ children, motive child) root tag text
    (fun _ h => absurd h List.not_mem_nil)
    (fun _ _ hchild hrest => List.forall_mem_cons.mpr ⟨hchild, hrest⟩) node

/-! ## Preorder -/

mutual

/-- A node and all nodes below it, each before its children. -/
def preorder : Node → List Node
  | .root children => .root children :: listPreorder children
  | .tag name attributes children => .tag name attributes children :: listPreorder children
  | .text value => [.text value]

def listPreorder : List Node → List Node
  | [] => []
  | child :: rest => child.preorder ++ listPreorder rest

end

/-- All nodes below a node. -/
def descendants (node : Node) : List Node :=
  listPreorder node.children

theorem preorder_eq_cons (node : Node) : node.preorder = node :: node.descendants := by
  cases node <;> rfl

theorem mem_preorder_self (node : Node) : node ∈ node.preorder := by
  rw [preorder_eq_cons]
  exact List.mem_cons_self

theorem listPreorder_eq_flatMap (nodes : List Node) :
    listPreorder nodes = nodes.flatMap preorder := by
  induction nodes with
  | nil => rfl
  | cons node rest ih => rw [listPreorder, ih, List.flatMap_cons]

theorem mem_descendants {node m : Node} :
    m ∈ node.descendants ↔ ∃ child ∈ node.children, m ∈ child.preorder := by
  rw [descendants, listPreorder_eq_flatMap, List.mem_flatMap]

theorem mem_preorder_of_child {node child m : Node} (hc : child ∈ node.children)
    (hm : m ∈ child.preorder) : m ∈ node.preorder := by
  rw [preorder_eq_cons]
  exact List.mem_cons_of_mem _ (mem_descendants.mpr ⟨child, hc, hm⟩)

/-- A child that is added comes last in preorder, with all that is below it. -/
theorem descendants_addChild {node : Node} (h : ∀ value, node ≠ .text value) (child : Node) :
    (node.addChild child).descendants = node.descendants ++ child.preorder := by
  cases node with
  | text value => exact absurd rfl (h value)
  | root children | tag name attributes children =>
    simp only [addChild, descendants, Node.children, listPreorder_eq_flatMap, List.flatMap_append,
      List.flatMap_singleton]

/-! ## Events -/

mutual

/-- The events of a tree, depth first. A root gives only those of its children. -/
def events : Node → List Event
  | .root children => listEvents children
  | .tag name attributes children =>
    .openTag name attributes :: (listEvents children ++ [.closeTag])
  | .text value => [.text value]

def listEvents : List Node → List Event
  | [] => []
  | child :: rest => child.events ++ listEvents rest

end

theorem listEvents_eq_flatMap (nodes : List Node) : listEvents nodes = nodes.flatMap events := by
  induction nodes with
  | nil => rfl
  | cons node rest ih => rw [listEvents, ih, List.flatMap_cons]

theorem listEvents_concat (nodes : List Node) (node : Node) :
    listEvents (nodes ++ [node]) = listEvents nodes ++ node.events := by
  simp only [listEvents_eq_flatMap, List.flatMap_append, List.flatMap_singleton]

end HtmlComponent.Node
