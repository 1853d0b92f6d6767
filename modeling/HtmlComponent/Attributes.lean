/-!
# Attributes

The attributes of a tag: pairs of a name and a value, at most one for each name, in the order in
which the names first came up.
-/

namespace HtmlComponent

structure Attributes where
  entries : List (String × String)
  nodup : (entries.map Prod.fst).Nodup

namespace Attributes

/-- The pairs with the value of the first `name` replaced, if there is one. -/
def replace (name value : String) : List (String × String) → List (String × String)
  | [] => []
  | (n, v) :: rest => if n = name then (n, value) :: rest else (n, v) :: replace name value rest

theorem map_fst_replace (name value : String) (entries : List (String × String)) :
    (replace name value entries).map Prod.fst = entries.map Prod.fst := by
  induction entries with
  | nil => rfl
  | cons entry rest ih =>
    obtain ⟨n, v⟩ := entry
    by_cases h : n = name <;> simp [replace, h, ih]

theorem nodup_concat {entries : List (String × String)} (nodup : (entries.map Prod.fst).Nodup)
    {name : String} (value : String) (h : name ∉ entries.map Prod.fst) :
    ((entries ++ [(name, value)]).map Prod.fst).Nodup := by
  rw [List.map_append, List.nodup_append]
  refine ⟨nodup, by simp, fun a ha b hb hab => h ?_⟩
  have hb : b = name := by simpa using hb
  rwa [← hb, ← hab]

def empty : Attributes :=
  ⟨[], List.nodup_nil⟩

def names (as : Attributes) : List String :=
  as.entries.map Prod.fst

def isEmpty (as : Attributes) : Bool :=
  as.entries.isEmpty

def get? (as : Attributes) (name : String) : Option String :=
  as.entries.lookup name

/-- Gives `name` the value: in its place if it has one already, else at the end. -/
def set (as : Attributes) (name value : String) : Attributes :=
  if h : name ∈ as.entries.map Prod.fst then
    ⟨replace name value as.entries, map_fst_replace name value as.entries ▸ as.nodup⟩
  else ⟨as.entries ++ [(name, value)], nodup_concat as.nodup value h⟩

/-- Gives `name` the value unless it has one already. -/
def setIfNew (as : Attributes) (name value : String) : Attributes :=
  if h : name ∈ as.entries.map Prod.fst then as
  else ⟨as.entries ++ [(name, value)], nodup_concat as.nodup value h⟩

/-- Collects pairs in order; of a repeated name the last value counts. -/
def ofPairs (pairs : List (String × String)) : Attributes :=
  pairs.foldl (fun as p => as.set p.1 p.2) empty

/-- Collects pairs in order; of a repeated name the first value counts. -/
def ofFirstPairs (pairs : List (String × String)) : Attributes :=
  pairs.foldl (fun as p => as.setIfNew p.1 p.2) empty

/-- Whether two collections give the same names the same values. -/
def same (as bs : Attributes) : Bool :=
  as.entries.length == bs.entries.length && as.entries.all fun e => bs.get? e.1 == some e.2

end Attributes

end HtmlComponent
