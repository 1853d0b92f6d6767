import Mathlib.Data.List.Induction
import Mathlib.Data.List.Perm.Subperm
import HtmlComponent.NameSet

/-!
# Sets of names and the lists behind them

Adding names one by one leaves each of them at its first occurrence. Sets are the same if their lists
are, up to order.
-/

namespace HtmlComponent

theorem perm_iff_of_nodup {α : Type} {xs ys : List α} (h : xs.Nodup) :
    xs.Perm ys ↔ xs.length = ys.length ∧ ∀ x ∈ xs, x ∈ ys := by
  refine ⟨fun hperm => ⟨hperm.length_eq, fun x hx => hperm.mem_iff.mp hx⟩, fun hlist => ?_⟩
  exact (List.subperm_of_subset h hlist.2).perm_of_length_le (Nat.le_of_eq hlist.1.symm)

namespace NameSet

theorem ext_names {s t : NameSet} (h : s.names = t.names) : s = t := by
  cases s
  cases t
  subst h
  rfl

theorem eraseDups_concat (names : List String) (name : String) :
    (names ++ [name]).eraseDups =
      if name ∈ names then names.eraseDups else names.eraseDups ++ [name] := by
  rw [List.eraseDups_append]
  by_cases h : name ∈ names
  · rw [if_pos h]
    simp [List.removeAll, h]
  · rw [if_neg h]
    simp [List.removeAll, h, List.eraseDups_cons]

/-- Of the names behind others those are left that have not come up among the others. -/
theorem eraseDups_append (names more : List String) :
    (names ++ more).eraseDups =
      names.eraseDups ++ more.eraseDups.filter fun name => !names.contains name := by
  induction more using List.reverseRecOn with
  | nil => simp
  | append_singleton more name ih =>
    rw [← List.append_assoc, eraseDups_concat, eraseDups_concat, ih]
    by_cases hnames : name ∈ names
    · by_cases hmore : name ∈ more <;> simp [hnames, hmore]
    · by_cases hmore : name ∈ more <;> simp [hnames, hmore]

/-- The same for two lists that start alike: of the second, nothing of the common start is left. -/
theorem eraseDups_append_of_seeded (seed names more : List String) :
    (seed ++ (names ++ more)).eraseDups = (seed ++ names).eraseDups ++
      (seed ++ more).eraseDups.filter fun name => !(seed ++ names).eraseDups.contains name := by
  have hseed : seed.eraseDups.filter (fun name => !(seed ++ names).contains name) = [] := by
    rw [List.filter_eq_nil_iff]
    intro name hname
    simp [List.mem_eraseDups.mp hname]
  have hcontains : ∀ name, (seed ++ names).eraseDups.contains name =
      (seed ++ names).contains name := by
    intro name
    rw [Bool.eq_iff_iff, List.contains_iff_mem, List.contains_iff_mem, List.mem_eraseDups]
  simp only [hcontains]
  rw [← List.append_assoc, eraseDups_append, eraseDups_append seed more, List.filter_append, hseed,
    List.nil_append, List.filter_filter]
  congr 1
  apply List.filter_congr
  intro name _
  by_cases hname : name ∈ seed <;> simp [hname]

/-- Names that are dropped before a renaming would have been dropped after it as well. -/
theorem eraseDups_map_eraseDups (rename : String → String) (names : List String) :
    (names.eraseDups.map rename).eraseDups = (names.map rename).eraseDups := by
  -- from the last name on, since that is the one that is dropped or kept
  induction names using List.reverseRecOn with
  | nil => rfl
  | append_singleton names name ih =>
    rw [List.map_append, List.map_singleton, eraseDups_concat, eraseDups_concat, ← ih]
    by_cases h : name ∈ names
    · rw [if_pos h, if_pos (List.mem_map_of_mem h)]
    · rw [if_neg h, List.map_append, List.map_singleton, eraseDups_concat]
      simp only [List.mem_map, List.mem_eraseDups]

theorem names_insert_of_eq {s : NameSet} {names : List String} (h : s.names = names.eraseDups)
    (name : String) : (s.insert name).names = (names ++ [name]).eraseDups := by
  rw [names_insert, h, eraseDups_concat]
  simp only [List.mem_eraseDups]

theorem names_insertMany_of_eq {s : NameSet} {names : List String} (h : s.names = names.eraseDups)
    (more : List String) : (s.insertMany more).names = (names ++ more).eraseDups := by
  induction more generalizing s names with
  | nil =>
    rw [List.append_nil]
    exact h
  | cons name rest ih =>
    have hrest := ih (names_insert_of_eq h name)
    rw [List.append_assoc] at hrest
    exact hrest

theorem names_ofList (names : List String) : (ofList names).names = names.eraseDups := by
  have hempty : empty.names = ([] : List String).eraseDups := rfl
  exact names_insertMany_of_eq hempty names

theorem same_iff_perm {s t : NameSet} : s.same t ↔ s.names.Perm t.names := by
  rw [perm_iff_of_nodup s.nodup, same, Bool.and_eq_true, beq_iff_eq, List.all_eq_true]
  simp only [size, contains, decide_eq_true_eq]

end NameSet

end HtmlComponent
