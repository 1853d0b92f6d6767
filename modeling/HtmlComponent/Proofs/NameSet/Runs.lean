import HtmlComponent.Proofs.NameSet

/-!
# Runs over a set of names

A set is used by adding names and by asking what it holds. However this is mixed, each answer depends
only on the names that have come up so far: those the set was made from, then those added to it. The
list of a set grows at its end and never changes otherwise.
-/

namespace HtmlComponent.NameSet

inductive Operation where
  | add (name : String)
  | contains (name : String)
  | size
  | isEmpty
  | names

inductive Answer where
  | truth (value : Bool)
  | count (value : Nat)
  | list (names : List String)
  deriving DecidableEq

/-- The answer to an operation, and the set after it. -/
def perform (s : NameSet) : Operation → Answer × NameSet
  | .add name =>
    let added := s.add name
    (.truth added.1, added.2)
  | .contains name => (.truth (s.contains name), s)
  | .size => (.count s.size, s)
  | .isEmpty => (.truth s.isEmpty, s)
  | .names => (.list s.names, s)

def after (s : NameSet) (operations : List Operation) : NameSet :=
  operations.foldl (fun s operation => (s.perform operation).2) s

namespace Operation

def added? : Operation → Option String
  | .add name => some name
  | _ => none

/-- The names that the operations add, those that are there already among them. -/
def added (operations : List Operation) : List String :=
  operations.filterMap added?

/-- The answer to an operation when these names have come up before it. -/
def answer (seen : List String) : Operation → Answer
  | .add name => .truth (decide (name ∉ seen))
  | .contains name => .truth (decide (name ∈ seen.eraseDups))
  | .size => .count seen.eraseDups.length
  | .isEmpty => .truth seen.eraseDups.isEmpty
  | .names => .list seen.eraseDups

end Operation

open Operation (added)

/-! ## One operation -/

theorem perform_snd (s : NameSet) (operation : Operation) :
    (s.perform operation).2 = s.insertMany (added [operation]) := by
  cases operation <;> rfl

theorem perform_fst {s : NameSet} {seen : List String} (h : s.names = seen.eraseDups)
    (operation : Operation) : (s.perform operation).1 = operation.answer seen := by
  cases operation with
  | add name =>
    show Answer.truth (!decide (name ∈ s.names)) = .truth (decide (name ∉ seen))
    rw [h, decide_not]
    simp only [List.mem_eraseDups]
  | contains name | size | isEmpty | names =>
    simp only [perform, contains, size, isEmpty, Operation.answer, h]

theorem names_prefix_insert (s : NameSet) (name : String) : s.names <+: (s.insert name).names := by
  rw [names_insert]
  split
  · exact List.prefix_rfl
  · exact List.prefix_append s.names [name]

/-! ## Runs -/

theorem after_eq_insertMany (s : NameSet) (operations : List Operation) :
    s.after operations = s.insertMany (added operations) := by
  induction operations generalizing s with
  | nil => rfl
  | cons operation rest ih =>
    show (s.perform operation).2.after rest = _
    have hadded : added (operation :: rest) = added [operation] ++ added rest := by
      rw [added, added, added, ← List.filterMap_append]
      rfl
    rw [ih, perform_snd, hadded, insertMany, insertMany, insertMany, List.foldl_append]

theorem names_after_ofList (seed : List String) (operations : List Operation) :
    ((ofList seed).after operations).names = (seed ++ added operations).eraseDups := by
  rw [after_eq_insertMany]
  exact names_insertMany_of_eq (names_ofList seed) _

theorem names_prefix_after (s : NameSet) (operations : List Operation) :
    s.names <+: (s.after operations).names := by
  rw [after_eq_insertMany]
  generalize added operations = names
  induction names generalizing s with
  | nil => exact List.prefix_rfl
  | cons name rest ih => exact (names_prefix_insert s name).trans (ih (s.insert name))

/-! ## Comparing sets -/

theorem same_iff_contains {s t : NameSet} :
    s.same t ↔ ∀ name, s.contains name = t.contains name := by
  -- lists without repeats that have the same members differ in their order alone
  rw [same_iff_perm, List.perm_ext_iff_of_nodup s.nodup t.nodup]
  apply forall_congr'
  intro name
  rw [contains, contains, decide_eq_decide]

/-- Along every run over a set the answers are those that the names so far call for, and what the list
has held stays in front of it. Two runs end with the same set exactly if both sets hold the same
names. -/
theorem answers_along_run (seed : List String) (operations : List Operation) :
    let s := (ofList seed).after operations
    (∀ operation, (s.perform operation).1 = operation.answer (seed ++ added operations)) ∧
    (∀ earlier, earlier <+: operations → ((ofList seed).after earlier).names <+: s.names) ∧
    ∀ seed' operations', s.same ((ofList seed').after operations') = true ↔
      ∀ name, s.contains name = ((ofList seed').after operations').contains name := by
  refine ⟨perform_fst (names_after_ofList seed operations), ?_, fun _ _ => same_iff_contains⟩
  rintro earlier ⟨later, rfl⟩
  rw [after, after, List.foldl_append]
  exact names_prefix_after _ later

-- a name of the seed is not new, and asking leaves no trace
example : (((ofList ["cpt", "shadow"]).after [.add "cpt", .size, .add "div"]).perform .names).1 =
    .list ["cpt", "shadow", "div"] := by
  decide

end HtmlComponent.NameSet
