import Mathlib.Data.List.Forall2
import HtmlComponent.Document.Basic
import HtmlComponent.Proofs.Attributes
import HtmlComponent.Proofs.Document.Names

/-!
# Documents that are the same up to order

Comparing two documents goes through their trees in step, child by child, but takes attributes and
names in whatever order they come. So all that it leaves open is how these are ordered: where the
order is the same as well, the documents are equal.
-/

namespace HtmlComponent

namespace Node

theorem forall₂_of_sameList {motive : Node → Node → Prop} {xs ys : List Node}
    (h : ∀ x ∈ xs, ∀ y, x.same y → motive x y) (hsame : sameList xs ys) :
    List.Forall₂ motive xs ys := by
  induction xs generalizing ys with
  | nil =>
    cases ys with
    | nil => exact .nil
    | cons y ys => cases hsame
  | cons x xs ih =>
    cases ys with
    | nil => cases hsame
    | cons y ys =>
      rw [List.forall_mem_cons] at h
      rw [sameList, Bool.and_eq_true] at hsame
      exact .cons (h.1 y hsame.1) (ih h.2 hsame.2)

/-- What holds of two trees that are the same follows from what holds of their children, pair by
pair. -/
theorem same_induction {motive : Node → Node → Prop}
    (root : ∀ xs ys, List.Forall₂ motive xs ys → motive (.root xs) (.root ys))
    (tag : ∀ name as bs xs ys, as.entries.Perm bs.entries → List.Forall₂ motive xs ys →
      motive (.tag name as xs) (.tag name bs ys))
    (text : ∀ value, motive (.text value) (.text value)) {m n : Node} (h : m.same n) :
    motive m n := by
  induction m using Node.induction generalizing n with
  | root xs ih =>
    cases n with
    | root ys => exact root xs ys (forall₂_of_sameList (fun x hx _ => ih x hx) h)
    | tag name bs ys | text value => cases h
  | tag name as xs ih =>
    cases n with
    | tag name' bs ys =>
      rw [same, Bool.and_eq_true, Bool.and_eq_true, beq_iff_eq] at h
      rcases h with ⟨⟨rfl, hattributes⟩, hchildren⟩
      exact tag name as bs xs ys (Attributes.same_iff_perm.mp hattributes)
        (forall₂_of_sameList (fun x hx _ => ih x hx) hchildren)
    | root ys | text value => cases h
  | text value =>
    cases n with
    | text value' =>
      rw [same, beq_iff_eq] at h
      exact h ▸ text value
    | root ys | tag name bs ys => cases h

/-! ## Order -/

/-- The names of the attributes of each tag, the tags in preorder. -/
def attributeNames (n : Node) : List (List String) :=
  (n.preorder.filterMap tag?).map fun t => t.2.names

theorem attributeNames_root (children : List Node) :
    (Node.root children).attributeNames = children.flatMap attributeNames := by
  have htag : tag? (.root children) = none := rfl
  simp only [attributeNames, preorder, List.filterMap_cons_none htag, listPreorder_eq_flatMap,
    List.filterMap_flatMap, List.map_flatMap]
  rfl

theorem attributeNames_tag (name : String) (as : Attributes) (children : List Node) :
    (Node.tag name as children).attributeNames =
      as.names :: children.flatMap attributeNames := by
  have htag : tag? (.tag name as children) = some (name, as) := rfl
  simp only [attributeNames, preorder, List.filterMap_cons_some htag, List.map_cons,
    listPreorder_eq_flatMap, List.filterMap_flatMap, List.map_flatMap]
  rfl

/-- Two trees have as many tags, and they are equal if the attributes of their tags come in the same
order. -/
def EqualInOrder (m n : Node) : Prop :=
  m.attributeNames.length = n.attributeNames.length ∧ (m.attributeNames = n.attributeNames → m = n)

theorem equalInOrder_children {xs ys : List Node} (h : List.Forall₂ EqualInOrder xs ys) :
    (xs.flatMap attributeNames).length = (ys.flatMap attributeNames).length ∧
      (xs.flatMap attributeNames = ys.flatMap attributeNames → xs = ys) := by
  induction h with
  | nil => exact ⟨rfl, fun _ => rfl⟩
  | cons hnode _ ih =>
    simp only [List.flatMap_cons, List.length_append]
    refine ⟨by rw [hnode.1, ih.1], fun heq => ?_⟩
    -- the names of the first child end where those of the other first child do
    rcases List.append_inj heq hnode.1 with ⟨hfirst, hrest⟩
    rw [hnode.2 hfirst, ih.2 hrest]

theorem equalInOrder_of_same {m n : Node} (h : m.same n) : EqualInOrder m n := by
  refine same_induction (motive := EqualInOrder) ?_ ?_ ?_ h
  · intro xs ys hchildren
    have hlist := equalInOrder_children hchildren
    unfold EqualInOrder
    rw [attributeNames_root, attributeNames_root]
    exact ⟨hlist.1, fun heq => congrArg Node.root (hlist.2 heq)⟩
  · intro name as bs xs ys hperm hchildren
    have hlist := equalInOrder_children hchildren
    unfold EqualInOrder
    rw [attributeNames_tag, attributeNames_tag]
    refine ⟨congrArg (· + 1) hlist.1, fun heq => ?_⟩
    rw [List.cons.injEq] at heq
    rw [Attributes.eq_of_perm_of_names_eq hperm heq.1, hlist.2 heq.2]
  · exact fun value => ⟨rfl, fun _ => rfl⟩

end Node

namespace Document

/-- Attributes of corresponding tags come in one order in both, and so do the names. -/
def SameOrder (d e : Document) : Prop :=
  d.root.attributeNames = e.root.attributeNames ∧ d.styles.names = e.styles.names ∧
    d.elements.names = e.elements.names

instance (d e : Document) : Decidable (d.SameOrder e) :=
  inferInstanceAs (Decidable (_ ∧ _ ∧ _))

theorem same_iff {d e : Document} :
    d.same e ↔ d.root.same e.root ∧ d.styles.names.Perm e.styles.names ∧
      d.elements.names.Perm e.elements.names := by
  rw [same, Bool.and_eq_true, Bool.and_eq_true, NameSet.same_iff_perm, NameSet.same_iff_perm,
    and_assoc]

theorem eq_of_same_of_sameOrder {d e : Document} (h : d.same e) (horder : d.SameOrder e) :
    d = e := by
  have hroot := (Node.equalInOrder_of_same (same_iff.mp h).1).2 horder.1
  have hstyles := NameSet.ext_names horder.2.1
  have helements := NameSet.ext_names horder.2.2
  cases d
  cases e
  rw [Document.mk.injEq]
  exact ⟨hroot, hstyles, helements⟩

end Document

end HtmlComponent
