/-!
# Sets of names

A set of names that remembers the order in which they were first added. Two sets are the same when
they hold the same names, in whatever order.
-/

namespace HtmlComponent

structure NameSet where
  /-- The names in the order in which they were added. -/
  names : List String
  nodup : names.Nodup

namespace NameSet

def empty : NameSet :=
  ⟨[], List.nodup_nil⟩

def contains (s : NameSet) (name : String) : Bool :=
  decide (name ∈ s.names)

def size (s : NameSet) : Nat :=
  s.names.length

def isEmpty (s : NameSet) : Bool :=
  s.names.isEmpty

/-- Adds a name at the end, unless it is there already. -/
def insert (s : NameSet) (name : String) : NameSet :=
  if h : name ∈ s.names then s
  else ⟨s.names ++ [name], List.nodup_append.mpr
    ⟨s.nodup, by simp, fun a ha b hb => by
      rintro rfl
      exact h (List.mem_singleton.mp hb ▸ ha)⟩⟩

/-- Adds a name and tells whether it is new. -/
def add (s : NameSet) (name : String) : Bool × NameSet :=
  (!s.contains name, s.insert name)

def insertMany (s : NameSet) (names : List String) : NameSet :=
  names.foldl insert s

/-- The names of a list, each at its first occurrence. -/
def ofList (names : List String) : NameSet :=
  empty.insertMany names

/-- Whether two sets hold the same names. -/
def same (s t : NameSet) : Bool :=
  s.size == t.size && s.names.all t.contains

theorem names_insert (s : NameSet) (name : String) :
    (s.insert name).names = if name ∈ s.names then s.names else s.names ++ [name] := by
  unfold insert
  split <;> rfl

end NameSet

end HtmlComponent
