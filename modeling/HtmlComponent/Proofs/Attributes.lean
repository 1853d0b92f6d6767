import Mathlib.Data.List.Nodup
import HtmlComponent.Attributes
import HtmlComponent.Proofs.NameSet

/-!
# Collecting attributes

Which pairs are left when attributes are collected from a list in which names repeat: each name once,
where it first comes up, with its first value or with its last. Collections that have their names in
one order are the same only if they are equal.
-/

namespace HtmlComponent.Attributes

def sameName (p q : String × String) : Bool :=
  p.1 == q.1

/-- The pairs whose names have not come up before them. -/
def firstEntries (pairs : List (String × String)) : List (String × String) :=
  pairs.eraseDupsBy sameName

theorem entries_setIfNew (as : Attributes) (name value : String) :
    (as.setIfNew name value).entries =
      if name ∈ as.names then as.entries else as.entries ++ [(name, value)] := by
  unfold setIfNew names
  split <;> rfl

theorem entries_foldl_setIfNew (as : Attributes) (pairs : List (String × String)) :
    (pairs.foldl (fun as p => as.setIfNew p.1 p.2) as).entries =
      as.entries ++ firstEntries (pairs.filter fun p => !as.names.contains p.1) := by
  induction pairs generalizing as with
  | nil => simp [firstEntries]
  | cons p rest ih =>
    have hentries := entries_setIfNew as p.1 p.2
    rw [List.foldl_cons, ih, hentries]
    by_cases hp : p.1 ∈ as.names
    · have hnames : (as.setIfNew p.1 p.2).names = as.names := by
        rw [names, hentries, if_pos hp, names]
      rw [if_pos hp, hnames, List.filter_cons_of_neg (by simpa using hp)]
    · -- from here on the new name counts as one that has come up
      have hfilter : (rest.filter fun q => !(as.setIfNew p.1 p.2).names.contains q.1) =
          (rest.filter fun q => !as.names.contains q.1).filter fun q => sameName q p = false := by
        rw [List.filter_filter]
        congr 1
        funext q
        rw [names, hentries, if_neg hp, Bool.eq_iff_iff]
        simp [sameName, names, and_comm]
      rw [if_neg hp, hfilter, List.filter_cons_of_pos (by simpa using hp), firstEntries,
        firstEntries, List.eraseDupsBy_cons, List.append_assoc]
      rfl

theorem entries_ofFirstPairs (pairs : List (String × String)) :
    (ofFirstPairs pairs).entries = firstEntries pairs := by
  have hall : pairs.filter (fun p => !empty.names.contains p.1) = pairs :=
    List.filter_eq_self.mpr fun _ _ => rfl
  rw [ofFirstPairs, entries_foldl_setIfNew, hall]
  rfl

/-! ## The names that are collected -/

theorem names_setIfNew (as : Attributes) (name value : String) :
    (as.setIfNew name value).names =
      if name ∈ as.names then as.names else as.names ++ [name] := by
  rw [names, entries_setIfNew]
  by_cases h : name ∈ as.names
  · rw [if_pos h, if_pos h, names]
  · rw [if_neg h, if_neg h, List.map_append, List.map_singleton, names]

theorem names_set (as : Attributes) (name value : String) :
    (as.set name value).names = if name ∈ as.names then as.names else as.names ++ [name] := by
  unfold set names
  by_cases h : name ∈ as.entries.map Prod.fst
  · rw [dif_pos h, if_pos h, map_fst_replace]
  · rw [dif_neg h, if_neg h, List.map_append, List.map_singleton]

/-- A name that comes up again keeps its place, whatever becomes of its value. -/
theorem names_foldl {step : Attributes → String × String → Attributes}
    (hstep : ∀ as p, (step as p).names =
      if p.1 ∈ as.names then as.names else as.names ++ [p.1]) (pairs : List (String × String)) :
    (pairs.foldl step empty).names = (pairs.map Prod.fst).eraseDups := by
  -- from the last pair on, since its name is new or not by those in front of it
  induction pairs using List.reverseRecOn with
  | nil => rfl
  | append_singleton pairs p ih =>
    rw [List.foldl_append, List.foldl_cons, List.foldl_nil, hstep, ih, List.map_append,
      List.map_singleton, NameSet.eraseDups_concat]
    simp only [List.mem_eraseDups]

theorem names_ofFirstPairs (pairs : List (String × String)) :
    (ofFirstPairs pairs).names = (pairs.map Prod.fst).eraseDups :=
  names_foldl (fun as p => names_setIfNew as p.1 p.2) pairs

theorem names_ofPairs (pairs : List (String × String)) :
    (ofPairs pairs).names = (pairs.map Prod.fst).eraseDups :=
  names_foldl (fun as p => names_set as p.1 p.2) pairs

/-- Every name that comes up is collected. -/
theorem mem_names_ofFirstPairs {pairs : List (String × String)} {name : String} :
    name ∈ (ofFirstPairs pairs).names ↔ name ∈ pairs.map Prod.fst := by
  rw [names_ofFirstPairs, List.mem_eraseDups]

/-! ## The values that are collected -/

theorem get?_eq_none_iff {as : Attributes} {name : String} :
    as.get? name = none ↔ name ∉ as.names := by
  rw [get?, List.lookup_eq_none_iff, names, List.mem_map, not_exists]
  apply forall_congr'
  intro e
  rw [bne_iff_ne, not_and]
  exact ⟨fun h he heq => h he heq.symm, fun h he heq => h he heq.symm⟩

theorem lookup_cons_eq_if (n v name : String) (rest : List (String × String)) :
    ((n, v) :: rest).lookup name = if name = n then some v else rest.lookup name := by
  rw [List.lookup_cons]
  by_cases h : name = n
  · rw [if_pos h, beq_iff_eq.mpr h]
  · rw [if_neg h, beq_eq_false_iff_ne.mpr h]

theorem lookup_replace {name : String} {entries : List (String × String)}
    (h : name ∈ entries.map Prod.fst) (value n : String) :
    (replace name value entries).lookup n =
      if n = name then some value else entries.lookup n := by
  induction entries with
  | nil => exact absurd h List.not_mem_nil
  | cons entry rest ih =>
    obtain ⟨m, v⟩ := entry
    rw [replace, lookup_cons_eq_if]
    by_cases hm : m = name
    · rw [if_pos hm, lookup_cons_eq_if, hm]
      by_cases hn : n = name
      · rw [if_pos hn, if_pos hn]
      · rw [if_neg hn, if_neg hn, if_neg hn]
    · have hrest : name ∈ rest.map Prod.fst := by simpa [Ne.symm hm] using h
      rw [if_neg hm, lookup_cons_eq_if, ih hrest]
      by_cases hn : n = m
      · rw [if_pos hn, if_pos hn, if_neg (hn ▸ hm)]
      · rw [if_neg hn, if_neg hn]

theorem get?_set (as : Attributes) (name value n : String) :
    (as.set name value).get? n = if n = name then some value else as.get? n := by
  unfold set get?
  by_cases h : name ∈ as.entries.map Prod.fst
  · rw [dif_pos h, lookup_replace h]
  · rw [dif_neg h, List.lookup_append, List.lookup_singleton]
    by_cases hn : n = name
    · subst hn
      have hnone : as.entries.lookup n = none := get?_eq_none_iff.mpr h
      simp [hnone]
    · simp [hn]

/-- A value that is there comes before the new one. -/
theorem get?_setIfNew (as : Attributes) (name value n : String) :
    (as.setIfNew name value).get? n = (as.get? n).or (if n = name then some value else none) := by
  rw [get?, entries_setIfNew, get?]
  by_cases h : name ∈ as.names
  · rw [if_pos h]
    by_cases hn : n = name
    · -- what comes second does not count, since the name has a value
      have hsome : as.entries.lookup n ≠ none := fun hnone => get?_eq_none_iff.mp hnone (hn ▸ h)
      rcases Option.ne_none_iff_exists'.mp hsome with ⟨v, hv⟩
      rw [hv, Option.some_or]
    · rw [if_neg hn, Option.or_none]
  · rw [if_neg h, List.lookup_append, List.lookup_singleton]
    simp only [beq_iff_eq]

theorem get?_ofFirstPairs (pairs : List (String × String)) (name : String) :
    (ofFirstPairs pairs).get? name = pairs.lookup name := by
  induction pairs using List.reverseRecOn with
  | nil => rfl
  | append_singleton pairs p ih =>
    rw [ofFirstPairs, List.foldl_append, List.foldl_cons, List.foldl_nil, get?_setIfNew,
      List.lookup_append, List.lookup_singleton, ← ih]
    simp only [beq_iff_eq]
    rfl

theorem get?_ofPairs (pairs : List (String × String)) (name : String) :
    (ofPairs pairs).get? name = pairs.reverse.lookup name := by
  induction pairs using List.reverseRecOn with
  | nil => rfl
  | append_singleton pairs p ih =>
    obtain ⟨n, v⟩ := p
    -- the last pair is the first one from behind
    rw [ofPairs, List.foldl_append, List.foldl_cons, List.foldl_nil, get?_set,
      List.reverse_append, List.reverse_singleton, List.singleton_append, lookup_cons_eq_if, ← ih]
    rfl

/-- The attributes with the first value of each name, in the order in which the names come up. -/
def firstOf (pairs : List (String × String)) : Attributes :=
  ⟨firstEntries pairs, entries_ofFirstPairs pairs ▸ (ofFirstPairs pairs).nodup⟩

theorem ofFirstPairs_eq_firstOf (pairs : List (String × String)) :
    ofFirstPairs pairs = firstOf pairs := by
  have hentries := entries_ofFirstPairs pairs
  cases hof : ofFirstPairs pairs with
  | mk entries nodup =>
    rw [hof] at hentries
    subst hentries
    rfl

/-! ## Leaving attributes out -/

theorem ext_entries {as bs : Attributes} (h : as.entries = bs.entries) : as = bs := by
  cases as
  cases bs
  subst h
  rfl

/-- The attributes whose names pass the test. -/
def filter (keep : String → Bool) (as : Attributes) : Attributes :=
  ⟨as.entries.filter fun e => keep e.1, as.nodup.sublist (List.filter_sublist.map Prod.fst)⟩

theorem lookup_filter {keep : String → Bool} {name : String} (h : keep name = true)
    (entries : List (String × String)) :
    (entries.filter fun e => keep e.1).lookup name = entries.lookup name := by
  induction entries with
  | nil => rfl
  | cons entry rest ih =>
    obtain ⟨n, v⟩ := entry
    rw [List.filter_cons, lookup_cons_eq_if, ← ih]
    by_cases hn : name = n
    · rw [if_pos hn, if_pos (hn ▸ h), lookup_cons_eq_if, if_pos hn]
    · rw [if_neg hn]
      split
      · rw [lookup_cons_eq_if, if_neg hn]
      · rfl

/-- An attribute that is kept has the value that it had. -/
theorem get?_filter {keep : String → Bool} {name : String} (h : keep name = true)
    (as : Attributes) : (as.filter keep).get? name = as.get? name :=
  lookup_filter h as.entries

/-- A name comes up once at most, so what its entries give is what its value gives. -/
theorem flatMap_entries_eq_get? {α : Type} (as : Attributes) (name : String)
    (f : String → List α) :
    (as.entries.flatMap fun e => if e.1 = name then f e.2 else []) =
      ((as.get? name).map f).getD [] := by
  obtain ⟨entries, nodup⟩ := as
  show _ = ((entries.lookup name).map f).getD []
  induction entries with
  | nil => rfl
  | cons entry rest ih =>
    obtain ⟨n, v⟩ := entry
    rw [List.map_cons, List.nodup_cons] at nodup
    rw [List.flatMap_cons, ih nodup.2, lookup_cons_eq_if]
    by_cases hn : n = name
    · subst hn
      -- no later entry has this name again
      have hnone : rest.lookup n = none := by
        show (Attributes.mk rest nodup.2).get? n = none
        exact get?_eq_none_iff.mpr nodup.1
      simp [hnone]
    · rw [if_neg hn, if_neg (Ne.symm hn), List.nil_append]

theorem get?_of_mem_entries {as : Attributes} {e : String × String} (h : e ∈ as.entries) :
    as.get? e.1 = some e.2 := by
  have hmem : e.2 ∈ ((as.get? e.1).map fun value => [value]).getD [] := by
    rw [← flatMap_entries_eq_get?, List.mem_flatMap]
    exact ⟨e, h, by simp⟩
  cases hget : as.get? e.1 with
  | none => simp [hget] at hmem
  | some value =>
    rw [hget] at hmem
    rw [List.mem_singleton.mp hmem]

theorem get?_eq_some_iff {as : Attributes} {name value : String} :
    as.get? name = some value ↔ (name, value) ∈ as.entries := by
  constructor
  · intro h
    rcases List.lookup_eq_some_iff.mp h with ⟨before, behind, hentries, -⟩
    rw [hentries]
    exact List.mem_append_right _ List.mem_cons_self
  · exact get?_of_mem_entries

/-! ## Comparing collections -/

theorem same_iff_perm {as bs : Attributes} : as.same bs ↔ as.entries.Perm bs.entries := by
  -- no entry comes up twice, since no name does
  have hnodup : as.entries.Nodup := List.Nodup.of_map Prod.fst as.nodup
  rw [perm_iff_of_nodup hnodup, same, Bool.and_eq_true, beq_iff_eq, List.all_eq_true]
  simp only [beq_iff_eq, get?_eq_some_iff]

/-- Names give the entries back, with the values from any collection that has the same ones. -/
theorem entries_eq_map {as bs : Attributes} (h : as.entries ⊆ bs.entries) :
    as.entries = as.names.map fun name => (name, (bs.get? name).getD "") := by
  rw [names, List.map_map]
  conv_lhs => rw [← List.map_id as.entries]
  apply List.map_congr_left
  intro e he
  simp [get?_eq_some_iff.mpr (h he)]

theorem eq_of_perm_of_names_eq {as bs : Attributes} (h : as.entries.Perm bs.entries)
    (hnames : as.names = bs.names) : as = bs := by
  apply ext_entries
  rw [entries_eq_map h.subset, entries_eq_map (List.Subset.refl bs.entries), hnames]

theorem eq_of_get?_eq {as bs : Attributes} (hnames : as.names = bs.names)
    (hget : ∀ name, as.get? name = bs.get? name) : as = bs := by
  apply ext_entries
  rw [entries_eq_map (List.Subset.refl as.entries), entries_eq_map (List.Subset.refl bs.entries),
    hnames]
  simp only [hget]

theorem same_iff_get?_eq {as bs : Attributes} (hnames : as.names = bs.names) :
    as.same bs = true ↔ ∀ name, as.get? name = bs.get? name := by
  constructor
  · intro hsame name
    rw [eq_of_perm_of_names_eq (same_iff_perm.mp hsame) hnames]
  · intro hget
    rw [eq_of_get?_eq hnames hget, same_iff_perm]

end HtmlComponent.Attributes
