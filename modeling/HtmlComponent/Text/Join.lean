/-!
# Joined texts
-/

namespace HtmlComponent.Text

/-- The texts one after another, with the separator between each two. -/
def joinWith (separator : String) : List String → String
  | [] => ""
  | [s] => s
  | s :: rest => s ++ separator ++ joinWith separator rest

theorem joinWith_append (separator : String) {xs ys : List String} (hxs : xs ≠ []) (hys : ys ≠ []) :
    joinWith separator (xs ++ ys) =
      joinWith separator xs ++ separator ++ joinWith separator ys := by
  induction xs with
  | nil => exact absurd rfl hxs
  | cons x xs ih =>
    cases xs with
    | nil =>
      cases ys with
      | nil => exact absurd rfl hys
      | cons y ys => rfl
    | cons x' xs =>
      show x ++ separator ++ joinWith separator (x' :: xs ++ ys) =
        x ++ separator ++ joinWith separator (x' :: xs) ++ separator ++ joinWith separator ys
      rw [ih (List.cons_ne_nil x' xs)]
      simp only [String.append_assoc]

/-- Texts that are joined in groups first, none of them empty, are joined as if there were no
groups. -/
theorem joinWith_flatMap {α : Type} (separator : String) {f : α → List String} {xs : List α}
    (h : ∀ x ∈ xs, f x ≠ []) :
    joinWith separator (xs.flatMap f) =
      joinWith separator (xs.map fun x => joinWith separator (f x)) := by
  induction xs with
  | nil => rfl
  | cons x xs ih =>
    rw [List.forall_mem_cons] at h
    cases xs with
    | nil => rw [List.flatMap_singleton, List.map_singleton, joinWith]
    | cons x' xs =>
      have hrest : (x' :: xs).flatMap f ≠ [] := by
        rw [List.flatMap_cons]
        exact List.append_ne_nil_of_left_ne_nil (h.2 x' List.mem_cons_self) _
      rw [List.flatMap_cons, joinWith_append separator h.1 hrest, ih h.2]
      rfl

end HtmlComponent.Text
