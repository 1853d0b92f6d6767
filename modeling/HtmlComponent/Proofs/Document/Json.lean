import HtmlComponent.Document.Basic
import HtmlComponent.Proofs.Attributes
import HtmlComponent.Proofs.Json
import HtmlComponent.Proofs.NameSet
import HtmlComponent.Proofs.Node.Traversal

/-!
# The JSON text of a document

A document can be told from its text: its tree, with the order of children and of attributes, and
the order of its names. Attributes stand in an object of their own, so none of them can be taken for
a member of the tag, whatever its name.
-/

namespace HtmlComponent

namespace Json

theorem eq_of_strings_eq {xs ys : List String} (h : strings xs = strings ys) : xs = ys := by
  have hstring : Function.Injective Json.string := fun _ _ => Json.string.inj
  exact List.map_injective_iff.mpr hstring (Json.array.inj h)

end Json

namespace Node

theorem attributes_eq_of_map_eq {as bs : Attributes}
    (h : (as.entries.map fun e => (e.1, Json.string e.2)) =
      bs.entries.map fun e => (e.1, Json.string e.2)) : as = bs := by
  have hentry : Function.Injective fun e : String × String => (e.1, Json.string e.2) := by
    rintro ⟨n, v⟩ ⟨m, w⟩ he
    rw [Prod.mk.injEq, Json.string.injEq] at he
    exact Prod.ext he.1 he.2
  exact Attributes.ext_entries (List.map_injective_iff.mpr hentry h)

theorem eq_of_listToJson_eq {xs ys : List Node}
    (ih : ∀ x ∈ xs, ∀ y : Node, x.toJson = y.toJson → x = y)
    (h : listToJson xs = listToJson ys) : xs = ys := by
  induction xs generalizing ys with
  | nil =>
    cases ys with
    | nil => rfl
    | cons y ys => cases h
  | cons x xs ihxs =>
    cases ys with
    | nil => cases h
    | cons y ys =>
      rw [listToJson, listToJson, List.cons.injEq] at h
      rw [List.forall_mem_cons] at ih
      rw [ih.1 y h.1, ihxs ih.2 h.2]

/-- The type of a node stands in its object, so nodes of different types differ there. -/
theorem eq_of_toJson_eq {node other : Node} (h : node.toJson = other.toJson) : node = other := by
  induction node using Node.induction generalizing other with
  | root children ih =>
    cases other with
    | root children' =>
      simp only [toJson, Json.object.injEq, List.cons.injEq, Prod.mk.injEq, Json.array.injEq,
        true_and, and_true] at h
      rw [eq_of_listToJson_eq (fun x hx _ => ih x hx) h]
    | tag name attributes children' => simp [toJson] at h
    | text value => simp [toJson] at h
  | tag name attributes children ih =>
    cases other with
    | root children' => simp [toJson] at h
    | tag name' attributes' children' =>
      simp only [toJson, Json.object.injEq, List.cons.injEq, Prod.mk.injEq, Json.array.injEq,
        Json.string.injEq, true_and, and_true] at h
      rcases h with ⟨rfl, hattributes, hchildren⟩
      rw [attributes_eq_of_map_eq hattributes, eq_of_listToJson_eq (fun x hx _ => ih x hx) hchildren]
    | text value => simp [toJson] at h
  | text value =>
    cases other with
    | root children' => simp [toJson] at h
    | tag name attributes children' => simp [toJson] at h
    | text value' =>
      simp only [toJson, Json.object.injEq, List.cons.injEq, Prod.mk.injEq, Json.string.injEq,
        true_and, and_true] at h
      rw [h]

end Node

namespace Document

theorem eq_of_toJson_eq {d e : Document} (h : d.toJson = e.toJson) : d = e := by
  obtain ⟨root, styles, elements⟩ := d
  obtain ⟨root', styles', elements'⟩ := e
  simp only [toJson, Json.object.injEq, List.cons.injEq, Prod.mk.injEq, true_and, and_true] at h
  rcases h with ⟨hroot, hstyles, helements⟩
  have hroot := Node.eq_of_toJson_eq hroot
  have hstyles := NameSet.ext_names (Json.eq_of_strings_eq hstyles)
  have helements := NameSet.ext_names (Json.eq_of_strings_eq helements)
  rw [hroot, hstyles, helements]

/-- Documents with one text are the same, in the order of their children, their attributes and their
names as well. -/
theorem toJson_text_eq_iff (d e : Document) : d.toJson.text = e.toJson.text ↔ d = e := by
  constructor
  · intro h
    exact eq_of_toJson_eq (Json.eq_of_text_eq h)
  · rintro rfl
    rfl

end Document

end HtmlComponent
