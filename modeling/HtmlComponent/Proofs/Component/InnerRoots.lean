import Mathlib.Data.List.Basic
import HtmlComponent.Component.Body
import HtmlComponent.Proofs.Node.Traversal

/-!
# Roots inside a tree

A root below the top of a tree leaves no mark of its own in a body: its children are written as
those of the node that it stands in, at the same depth. So they might as well take its place, at
every level at once, as long as there are any. A root without children is different, since it still
counts as a child.
-/

namespace HtmlComponent

namespace Node

mutual

/-- What stands in the place of a node once each root has given way to its children. -/
def spliced : Node → List Node
  | .root children => splicedList children
  | .tag name attributes children => [.tag name attributes (splicedList children)]
  | .text value => [.text value]

def splicedList : List Node → List Node
  | [] => []
  | child :: rest => child.spliced ++ splicedList rest

end

/-- The tree with each root below its top replaced by its children. -/
def flat : Node → Node
  | .root children => .root (splicedList children)
  | .tag name attributes children => .tag name attributes (splicedList children)
  | .text value => .text value

theorem splicedList_eq_flatMap (nodes : List Node) : splicedList nodes = nodes.flatMap spliced := by
  induction nodes with
  | nil => rfl
  | cons node rest ih => rw [splicedList, ih, List.flatMap_cons]

theorem children_flat (n : Node) : n.flat.children = splicedList n.children := by
  cases n <;> rfl

/-! ## What is left of a tree -/

theorem ne_root_of_mem_splicedList {children : List Node}
    (h : ∀ child ∈ children, ∀ n ∈ child.spliced, ∀ m ∈ n.preorder, ∀ cs, m ≠ .root cs) :
    ∀ m ∈ listPreorder (splicedList children), ∀ cs, m ≠ .root cs := by
  intro m hm
  rw [listPreorder_eq_flatMap, splicedList_eq_flatMap] at hm
  rcases List.mem_flatMap.mp hm with ⟨n, hn, hm⟩
  rcases List.mem_flatMap.mp hn with ⟨child, hchild, hn⟩
  exact h child hchild n hn m hm

theorem ne_root_of_mem_spliced (node : Node) :
    ∀ n ∈ node.spliced, ∀ m ∈ n.preorder, ∀ cs, m ≠ .root cs := by
  induction node using Node.induction with
  | root children ih =>
    intro n hn m hm
    apply ne_root_of_mem_splicedList ih m
    rw [listPreorder_eq_flatMap]
    exact List.mem_flatMap.mpr ⟨n, hn, hm⟩
  | tag name attributes children ih =>
    intro n hn m hm
    rw [List.mem_singleton.mp hn, preorder] at hm
    rcases List.mem_cons.mp hm with rfl | hm
    · intro cs
      exact Node.noConfusion
    · exact ne_root_of_mem_splicedList ih m hm
  | text value =>
    intro n hn m hm cs
    rw [List.mem_singleton.mp hn, preorder] at hm
    rw [List.mem_singleton.mp hm]
    exact Node.noConfusion

/-- No root is left below the top. -/
theorem ne_root_of_mem_descendants_flat (n : Node) :
    ∀ m ∈ n.flat.descendants, ∀ cs, m ≠ .root cs := by
  rw [descendants, children_flat]
  exact ne_root_of_mem_splicedList fun child _ => ne_root_of_mem_spliced child

theorem listEvents_splicedList {children : List Node}
    (h : ∀ child ∈ children, listEvents child.spliced = child.events) :
    listEvents (splicedList children) = listEvents children := by
  rw [splicedList_eq_flatMap, listEvents_eq_flatMap, listEvents_eq_flatMap, List.flatMap_assoc]
  apply List.flatMap_congr
  intro child hchild
  rw [← listEvents_eq_flatMap]
  exact h child hchild

theorem listEvents_spliced (node : Node) : listEvents node.spliced = node.events := by
  induction node using Node.induction with
  | root children ih => exact listEvents_splicedList ih
  | tag name attributes children ih =>
    simp only [spliced, listEvents, events, listEvents_splicedList ih, List.append_nil]
  | text value => rfl

/-- All tags and texts are left, in their order and inside the same tags. -/
theorem events_flat (n : Node) : n.flat.events = n.events := by
  have hchildren := listEvents_splicedList fun child (_ : child ∈ n.children) =>
    listEvents_spliced child
  cases n with
  | root children => exact hchildren
  | tag name attributes children =>
    rw [Node.children] at hchildren
    rw [flat, events, events, hchildren]
  | text value => rfl

/-- Something is left of every node if no root is empty. -/
theorem spliced_ne_nil {node : Node} (h : ∀ m ∈ node.preorder, m ≠ .root []) :
    node.spliced ≠ [] := by
  induction node using Node.induction with
  | root children ih =>
    cases children with
    | nil => exact absurd rfl (h _ (mem_preorder_self _))
    | cons child rest =>
      have hchild : child.spliced ≠ [] := by
        apply ih child List.mem_cons_self
        exact fun m hm => h m (mem_preorder_of_child List.mem_cons_self hm)
      rw [spliced, splicedList]
      exact List.append_ne_nil_of_left_ne_nil hchild _
  | tag name attributes children => exact List.cons_ne_nil _ _
  | text value => exact List.cons_ne_nil _ _

end Node

namespace Component.Body

open Node

/-! ## Bodies -/

/-- A tag shows its children only by their joined text, and by whether there are any. -/
theorem node_tag_congr {depth : Nat} (name : String) (as : Attributes) {cs ds : List Node}
    (hnil : cs = [] ↔ ds = [])
    (h : Text.joinWith ",\n" (cs.map (node (depth + 1))) =
      Text.joinWith ",\n" (ds.map (node (depth + 1)))) :
    node depth (.tag name as cs) = node depth (.tag name as ds) := by
  cases cs with
  | nil => rw [hnil.mp rfl]
  | cons c cs =>
    cases ds with
    | nil => exact absurd (hnil.mpr rfl) (List.cons_ne_nil c cs)
    | cons d ds =>
      rw [List.map_cons, List.map_cons] at h
      rw [node, node, nodes_eq_map, nodes_eq_map, h]

theorem joinWith_spliced (depth : Nat) (n : Node) :
    Text.joinWith ",\n" (n.spliced.map (node depth)) = node depth n.flat := by
  cases n with
  | root children => rw [spliced, flat, node, nodes_eq_map]
  | tag name as children => rfl
  | text value => rfl

/-- Children that are written alike with and without the roots in them are joined to one text. -/
theorem joinWith_splicedList {depth : Nat} {children : List Node}
    (hne : ∀ child ∈ children, child.spliced ≠ [])
    (h : ∀ child ∈ children, node depth child.flat = node depth child) :
    Text.joinWith ",\n" ((splicedList children).map (node depth)) =
      Text.joinWith ",\n" (children.map (node depth)) := by
  rw [splicedList_eq_flatMap, List.map_flatMap, Text.joinWith_flatMap]
  · simp only [joinWith_spliced]
    rw [List.map_congr_left h]
  · intro child hchild
    simpa using hne child hchild

theorem node_flat_of_children {n : Node} (hne : ∀ child ∈ n.children, child.spliced ≠ [])
    (h : ∀ child ∈ n.children, ∀ depth, node depth child.flat = node depth child) (depth : Nat) :
    node depth n.flat = node depth n := by
  cases n with
  | root children =>
    rw [flat, node, node, nodes_eq_map, nodes_eq_map]
    exact joinWith_splicedList hne fun child hchild => h child hchild depth
  | tag name as children =>
    have hnil : splicedList children = [] ↔ children = [] := by
      rw [splicedList_eq_flatMap, List.flatMap_eq_nil_iff]
      refine ⟨fun hnil => ?_, ?_⟩
      · exact List.eq_nil_iff_forall_not_mem.mpr fun child hchild =>
          hne child hchild (hnil child hchild)
      · rintro rfl child hchild
        exact absurd hchild List.not_mem_nil
    apply node_tag_congr name as hnil
    exact joinWith_splicedList hne fun child hchild => h child hchild (depth + 1)
  | text value => rfl

theorem node_flat {n : Node} (h : ∀ m ∈ n.descendants, m ≠ .root []) (depth : Nat) :
    node depth n.flat = node depth n := by
  induction n using Node.induction generalizing depth with
  | text value => rfl
  | root children ih | tag name as children ih =>
    -- a child is itself below the top, so it is not empty either
    have hchild : ∀ child ∈ children, ∀ m ∈ child.preorder, m ≠ .root [] :=
      fun child hmem m hm => h m (mem_descendants.mpr ⟨child, hmem, hm⟩)
    apply node_flat_of_children
    · exact fun child hmem => spliced_ne_nil (hchild child hmem)
    · intro child hmem
      apply ih child hmem
      intro m hm
      apply hchild child hmem
      rw [preorder_eq_cons]
      exact List.mem_cons_of_mem _ hm

/-- Roots below the top, none of them empty, can be replaced by their children: the tree that is
left has no such root, describes the same tags and texts, and is written alike at every depth. -/
theorem inner_roots_transparent {n : Node} (h : ∀ m ∈ n.descendants, m ≠ .root []) (depth : Nat) :
    node depth n.flat = node depth n ∧
      (∀ m ∈ n.flat.descendants, ∀ children, m ≠ .root children) ∧ n.flat.events = n.events :=
  ⟨node_flat h depth, ne_root_of_mem_descendants_flat n, events_flat n⟩

/-- Roots in roots, in a tag and next to a text. -/
def rootedTree : Node :=
  .root [.root [.root [.text "a"],
      .tag "p" .empty [.root [.text "b", .root [.tag "br" .empty []]]]], .text "c"]

theorem rootedTree_inner_roots_transparent :
    (∀ m ∈ rootedTree.descendants, m ≠ .root []) ∧
    rootedTree.flat =
      .root [.text "a", .tag "p" .empty [.text "b", .tag "br" .empty []], .text "c"] ∧
    node 1 rootedTree.flat = node 1 rootedTree ∧
      (∀ m ∈ rootedTree.flat.descendants, ∀ children, m ≠ .root children) ∧
      rootedTree.flat.events = rootedTree.events := by
  have h : ∀ m ∈ rootedTree.descendants, m ≠ .root [] := by
    simp [rootedTree, descendants, Node.children, listPreorder, preorder]
  exact ⟨h, rfl, inner_roots_transparent h 1⟩

-- an empty root counts as a child
example : node 0 (.tag "p" .empty [.root []]) ≠ node 0 (Node.tag "p" .empty [.root []]).flat := by
  decide

end Component.Body

end HtmlComponent
