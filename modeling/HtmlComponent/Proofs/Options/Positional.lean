import HtmlComponent.Proofs.Options.Object

/-!
# Options written as an array

Besides objects the reader of options takes arrays, which give the two fields by their places. A
text that opens no object gives options exactly if it is an array of at most two items, each of them
a string or null. In every other such text, whatever it holds, there is a fault.
-/

namespace HtmlComponent.Options

open Json (Token Spaced)

variable {s rest : List Char} {later : List Token} {value : Option String}

/-- The options that an array gives: its first item is the name, its second the library. -/
def positional : List (Option String) → Options
  | [] => ⟨none, none⟩
  | [name] => ⟨name, none⟩
  | name :: library :: _ => ⟨name, library⟩

/-! ## One item -/

theorem spaced_of_fieldValue (h : Takes (fieldValue s) value rest) (hrest : Spaced later rest) :
    Spaced ((Json.optional value).tokens ++ later) s := by
  rcases h with ⟨_, h⟩
  apply Spaced.of_skipGaps
  cases hgaps : skipGaps s with
  | nil =>
    unfold fieldValue at h
    split at h
    · cases h
    · rename_i heq
      rw [hgaps] at heq
      cases heq
  | cons c t =>
    rw [fieldValue_eq hgaps] at h
    by_cases hn : c = 'n'
    · subst hn
      rw [if_pos (beq_self_eq_true 'n')] at h
      split at h
      · cases h
      · rename_i left hword
        cases h
        have ht : t = ['u', 'l', 'l'] ++ left.val := eq_of_left?_word (congrArg left? hword)
        rw [ht]
        exact .tight .null hrest
    · rw [if_neg (by simpa using hn)] at h
      by_cases hquote : c = '"'
      · subst hquote
        rw [if_pos (beq_self_eq_true '"')] at h
        split at h
        · cases h
        · rename_i taken hbody
          obtain ⟨text, behind, _⟩ := taken
          cases h
          rcases Text.exists_of_stringBody ⟨_, hbody⟩ with ⟨u, rfl, hu⟩
          rw [← String.toList_ofList (l := text)] at hu
          have hstring := Spaced.tight (.string hu) hrest
          rw [List.cons_append, List.append_assoc] at hstring
          exact hstring
      · -- a value of another kind is a fault
        rw [if_neg (by simpa using hquote)] at h
        rcases exists_invalidType (α := Taken (Option String) s) .text (c :: t) with ⟨stop, hstop⟩
        rw [hstop] at h
        cases h

theorem fieldValue_optional (h : Spaced ((Json.optional value).tokens ++ later) s) :
    ∃ rest, Takes (fieldValue s) value rest ∧ Spaced later rest := by
  have hvalue : fieldText? (.optional value) = some value := fieldText?_eq_some_iff.mpr rfl
  rcases fieldValue_spaced h with ⟨text, rest, htext, htakes, hrest⟩ | ⟨hnone, -⟩
  · rw [hvalue, Option.some.injEq] at htext
    subst htext
    exact ⟨rest, htakes, hrest⟩
  · rw [hvalue] at hnone
    cases hnone

/-- Reads an item, which is the value of a field. -/
def item (s : List Char) : Except Stop (Option String × List Char) :=
  match fieldValue s with
  | .error e => .error e
  | .ok ⟨value, rest, _⟩ => .ok (value, rest)

theorem item_eq_ok_iff : item s = .ok (value, rest) ↔ Takes (fieldValue s) value rest := by
  unfold item Takes
  cases fieldValue s with
  | error e => simp
  | ok taken =>
    constructor
    · intro h
      cases h
      exact ⟨taken.shorter, rfl⟩
    · rintro ⟨_, h⟩
      cases h
      rfl

/-! ## The places of an array -/

theorem element_eq (first : Bool) (s : List Char) :
    element first s =
      match skipGaps s with
      | [] => ahead .eofList []
      | c :: rest =>
        if c == ']' then .ok (none, c :: rest)
        else if first then item (c :: rest)
        else if c == ',' then
          match skipGaps rest with
          | [] => ahead .eofValue []
          | ']' :: rest' => ahead .trailingComma (']' :: rest')
          | t => item t
        else ahead .expectedListCommaOrEnd (c :: rest) :=
  rfl

/-- What stands before an item: a comma, unless it is the first. -/
def lead (first : Bool) : List Token :=
  if first then [] else [.comma]

/-- Either the array ends here, with its bracket still ahead, or an item has been taken. -/
theorem element_ok {first : Bool} (h : element first s = .ok (value, rest)) :
    (value = none ∧ ∃ t, skipGaps s = ']' :: t ∧ rest = ']' :: t) ∨
      ∀ later, Spaced later rest →
        Spaced (lead first ++ ((Json.optional value).tokens ++ later)) s := by
  rw [element_eq] at h
  cases hgaps : skipGaps s with
  | nil =>
    rw [hgaps] at h
    cases h
  | cons c t =>
    simp only [hgaps, beq_iff_eq] at h
    by_cases hc : c = ']'
    · subst hc
      rw [if_pos rfl] at h
      cases h
      exact .inl ⟨rfl, t, rfl, rfl⟩
    · rw [if_neg hc] at h
      right
      intro later hlater
      apply Spaced.of_skipGaps
      rw [hgaps]
      cases first with
      | true =>
        rw [if_pos rfl, item_eq_ok_iff] at h
        exact spaced_of_fieldValue h hlater
      | false =>
        rw [if_neg Bool.false_ne_true] at h
        by_cases hcomma : c = ','
        · subst hcomma
          rw [if_pos rfl] at h
          -- behind the comma there has to be an item
          split at h
          · cases h
          · cases h
          · rw [item_eq_ok_iff] at h
            exact .tight .comma (.of_skipGaps (spaced_of_fieldValue h hlater))
        · rw [if_neg hcomma] at h
          cases h

theorem element_close (first : Bool) (h : skipGaps s = ']' :: rest) :
    element first s = .ok (none, ']' :: rest) := by
  rw [element_eq]
  simp only [h, beq_self_eq_true, ↓reduceIte]

/-- An item starts with a letter or a quote, so it is not mistaken for the end. -/
theorem exists_item (h : Spaced ((Json.optional value).tokens ++ later) s) :
    ∃ c t, skipGaps s = c :: t ∧ c ≠ ']' ∧
      Spaced ((Json.optional value).tokens ++ later) (c :: t) := by
  obtain ⟨token, htokens, hstart⟩ : ∃ token, (Json.optional value).tokens = [token] ∧
      token.starts ']' = false := by
    cases value with
    | none => exact ⟨.null, rfl, rfl⟩
    | some text => exact ⟨.string text, rfl, rfl⟩
  rw [htokens] at h ⊢
  rcases h.skipGaps_cons with ⟨t, rest, ht, hrest, hgaps⟩
  rcases ht.exists_head with ⟨c, cs, rfl, hc⟩
  refine ⟨c, cs ++ rest, hgaps, ?_, .tight ht hrest⟩
  rintro rfl
  rw [hstart] at hc
  cases hc

theorem element_takes (first : Bool)
    (h : Spaced (lead first ++ ((Json.optional value).tokens ++ later)) s) :
    ∃ rest, element first s = .ok (value, rest) ∧ Spaced later rest := by
  cases first with
  | true =>
    rcases exists_item h with ⟨c, t, hgaps, hc, hitem⟩
    rcases fieldValue_optional hitem with ⟨rest, htakes, hrest⟩
    refine ⟨rest, ?_, hrest⟩
    rw [element_eq, hgaps]
    simp only [beq_iff_eq, if_neg hc, ↓reduceIte, item_eq_ok_iff]
    exact htakes
  | false =>
    rcases h.skipGaps_mark rfl with ⟨behind, hbehind, hcomma⟩
    rcases exists_item hbehind with ⟨c, t, hgaps, hc, hitem⟩
    rcases fieldValue_optional hitem with ⟨rest, htakes, hrest⟩
    refine ⟨rest, ?_, hrest⟩
    rw [element_eq, hcomma]
    simp only [Char.reduceBEq, Bool.false_eq_true, ↓reduceIte, hgaps]
    split
    · rename_i heq
      cases heq
    · rename_i heq
      exact absurd (List.head_eq_of_cons_eq heq) hc
    · rw [item_eq_ok_iff]
      exact htakes

theorem closeList_eq_ok_iff : closeList s = .ok rest ↔ skipGaps s = ']' :: rest := by
  unfold closeList
  split
  · rename_i hgaps
    rw [hgaps]
    constructor <;> intro h <;> cases h
  · rename_i hgaps
    rw [hgaps, Except.ok.injEq, List.cons.injEq, eq_self_iff_true, true_and]
  · rename_i hgaps
    rw [hgaps]
    constructor
    · intro h
      split at h <;> cases h
    · intro h
      cases h
  · rename_i hend _
    constructor
    · intro h
      cases h
    · intro h
      exact absurd h (hend rest)

/-! ## Whole arrays -/

/-- The tokens behind the opening bracket of an array of these items. -/
def itemsTokens (items : List (Option String)) : List Token :=
  [.comma].intercalate (items.map fun item => (Json.optional item).tokens) ++ [.closes .list]

theorem tokens_array (items : List (Option String)) :
    (Json.array (items.map .optional)).tokens = .opens .list :: itemsTokens items := by
  rw [Json.tokens, Json.itemTokens_eq_map, List.map_map]
  rfl

theorem elements_eq_ok_iff {o : Options} :
    elements s = .ok (o, rest) ↔ ∃ t u, element true s = .ok (o.name, t) ∧
      element false t = .ok (o.styleLibrary, u) ∧ closeList u = .ok rest := by
  unfold elements
  simp only [bind, Except.bind, pure, Except.pure]
  constructor
  · intro h
    split at h
    · cases h
    · rename_i name hname
      split at h
      · cases h
      · rename_i library hlibrary
        split at h
        · cases h
        · rename_i hclose
          cases h
          exact ⟨name.2, library.2, hname, hlibrary, hclose⟩
  · rintro ⟨t, u, hname, hlibrary, hclose⟩
    simp only [hname, hlibrary, hclose]

theorem spaced_close {t : List Char} (hrest : Spaced later rest) (h : skipGaps t = ']' :: rest) :
    Spaced (.closes .list :: later) t := by
  apply Spaced.of_skipGaps
  rw [h]
  exact .tight (.closes .list) hrest

theorem itemsTokens_append_one (name : Option String) :
    itemsTokens [name] ++ later =
      lead true ++ ((Json.optional name).tokens ++ .closes .list :: later) := by
  simp [itemsTokens, lead]

theorem itemsTokens_append_two (name library : Option String) :
    itemsTokens [name, library] ++ later =
      lead true ++ ((Json.optional name).tokens ++
        (lead false ++ ((Json.optional library).tokens ++ .closes .list :: later))) := by
  simp [itemsTokens, lead]

/-- An array that is read has at most two items, and they are the fields. -/
theorem elements_ok {o : Options} (h : elements s = .ok (o, rest)) (hrest : Spaced later rest) :
    ∃ items, items.length ≤ 2 ∧ o = positional items ∧ Spaced (itemsTokens items ++ later) s := by
  rcases elements_eq_ok_iff.mp h with ⟨t, u, hname, hlibrary, hclose⟩
  have hend : Spaced (.closes .list :: later) u := spaced_close hrest (closeList_eq_ok_iff.mp hclose)
  rcases element_ok hname with ⟨hmissing, v, hs, rfl⟩ | hfirst
  · -- the array is empty, and its end is met at both places
    rw [element_close false rfl, Except.ok.injEq, Prod.mk.injEq] at hlibrary
    rcases hlibrary with ⟨hnone, rfl⟩
    refine ⟨[], Nat.zero_le 2, ?_, ?_⟩
    · change o = ⟨none, none⟩
      cases o
      cases hmissing
      cases hnone
      rfl
    · apply Spaced.of_skipGaps
      rw [hs]
      exact hend
  · rcases element_ok hlibrary with ⟨hmissing, v, ht, rfl⟩ | hsecond
    · refine ⟨[o.name], Nat.le_succ 1, ?_, ?_⟩
      · change o = ⟨o.name, none⟩
        rw [← hmissing]
      · rw [itemsTokens_append_one]
        apply hfirst
        apply Spaced.of_skipGaps
        rw [ht]
        exact hend
    · refine ⟨[o.name, o.styleLibrary], Nat.le_refl 2, rfl, ?_⟩
      rw [itemsTokens_append_two]
      exact hfirst _ (hsecond _ hend)

/-- Each place of an array of at most two items is read, and so is its end. -/
theorem elements_takes {items : List (Option String)} (hlength : items.length ≤ 2)
    (h : Spaced (itemsTokens items ++ later) s) :
    ∃ rest, elements s = .ok (positional items, rest) ∧ Spaced later rest := by
  match items with
  | [] =>
    rcases h.skipGaps_mark rfl with ⟨rest, hrest, hclose⟩
    refine ⟨rest, ?_, hrest⟩
    rw [elements_eq_ok_iff]
    exact ⟨']' :: rest, ']' :: rest, element_close true hclose, element_close false rfl,
      closeList_eq_ok_iff.mpr rfl⟩
  | [name] =>
    rw [itemsTokens_append_one] at h
    rcases element_takes true h with ⟨t, hname, ht⟩
    rcases ht.skipGaps_mark rfl with ⟨rest, hrest, hclose⟩
    refine ⟨rest, ?_, hrest⟩
    rw [elements_eq_ok_iff]
    exact ⟨t, ']' :: rest, hname, element_close false hclose, closeList_eq_ok_iff.mpr rfl⟩
  | [name, library] =>
    rw [itemsTokens_append_two] at h
    rcases element_takes true h with ⟨t, hname, ht⟩
    rcases element_takes false ht with ⟨u, hlibrary, hu⟩
    rcases hu.skipGaps_mark rfl with ⟨rest, hrest, hclose⟩
    refine ⟨rest, ?_, hrest⟩
    rw [elements_eq_ok_iff]
    exact ⟨t, u, hname, hlibrary, closeList_eq_ok_iff.mpr hclose⟩
  | _ :: _ :: _ :: _ => simp at hlength

/-! ## Whole texts -/

/-- The text is an array of at most two items, each a string or null, that gives these options. -/
def GivesByPlace (text : String) (o : Options) : Prop :=
  ∃ items : List (Option String), items.length ≤ 2 ∧
    Spaced (Json.array (items.map .optional)).tokens text.toList ∧ o = positional items

theorem readAll_eq_ok_iff {o : Options} :
    readAll s = .ok o ↔ ∃ rest, read s = .ok (o, rest) ∧ skipGaps rest = [] := by
  unfold readAll
  cases hread : read s with
  | error e => simp
  | ok result =>
    obtain ⟨o', rest⟩ := result
    cases hgaps : skipGaps rest with
    | nil => simp [hgaps, and_assoc]
    | cons c t => simp [hgaps, and_assoc, ahead]

theorem ofJson_eq_ok_iff {text : String} {o : Options} :
    ofJson text = .ok o ↔ readAll text.toList = .ok o := by
  unfold ofJson decode
  cases readAll text.toList with
  | error e => simp
  | ok o' => simp

theorem read_of_skipGaps (h : skipGaps s = '[' :: rest) : read s = elements rest := by
  simp only [read, h]

/-- What opens neither an array nor an object is no options. -/
theorem skipGaps_of_read {o : Options} (h : read s = .ok (o, rest)) :
    ∃ t, skipGaps s = '[' :: t ∨ skipGaps s = '\x7b' :: t := by
  unfold read at h
  split at h
  · cases h
  · rename_i t hgaps
    exact ⟨t, .inl hgaps⟩
  · rename_i t hgaps
    exact ⟨t, .inr hgaps⟩
  · rename_i t _ _ _
    rcases exists_invalidType (α := Options × List Char) .options (skipGaps s) with ⟨stop, hstop⟩
    rw [hstop] at h
    cases h

theorem givesByPlace_of_ofJson {text : String} {o : Options}
    (hobject : (skipGaps text.toList).head? ≠ some '\x7b') (h : ofJson text = .ok o) :
    GivesByPlace text o := by
  rw [ofJson_eq_ok_iff, readAll_eq_ok_iff] at h
  rcases h with ⟨rest, hread, hrest⟩
  rcases skipGaps_of_read hread with ⟨t, hgaps | hgaps⟩
  · rw [read_of_skipGaps hgaps] at hread
    have hblank : Spaced [] rest := by
      apply Spaced.of_skipGaps
      rw [hrest]
      exact .blank fun _ hc => absurd hc List.not_mem_nil
    rcases elements_ok hread hblank with ⟨items, hlength, ho, hspaced⟩
    refine ⟨items, hlength, ?_, ho⟩
    rw [tokens_array]
    apply Spaced.of_skipGaps
    rw [hgaps]
    rw [List.append_nil] at hspaced
    exact .tight (.opens .list) hspaced
  · rw [hgaps] at hobject
    exact absurd rfl hobject

theorem ofJson_of_givesByPlace {text : String} {o : Options} (h : GivesByPlace text o) :
    ofJson text = .ok o := by
  rcases h with ⟨items, hlength, hspaced, rfl⟩
  rw [tokens_array] at hspaced
  rcases hspaced.skipGaps_mark rfl with ⟨inside, hinside, hgaps⟩
  rw [← List.append_nil (itemsTokens items)] at hinside
  rcases elements_takes hlength hinside with ⟨rest, helements, hrest⟩
  rw [ofJson_eq_ok_iff, readAll_eq_ok_iff]
  refine ⟨rest, ?_, hrest.skipGaps_nil⟩
  rw [read_of_skipGaps hgaps]
  exact helements

/-- A text that gives no options has a fault, and there is no other error. -/
theorem exists_fault_iff {text : String} :
    (∃ fault, ofJson text = .error (.invalidOptions fault)) ↔ ¬ ∃ o, ofJson text = .ok o := by
  unfold ofJson
  cases decode text with
  | error fault => simp
  | ok o => simp

/-- A text that opens no object gives options exactly if it is an array of at most two items, each a
string or null, and then its items are the fields by their places. Every other such text has a
fault, the scalars and all other arrays among them. -/
theorem ofJson_eq_ok_iff_givesByPlace {text : String}
    (hobject : (skipGaps text.toList).head? ≠ some '\x7b') :
    (∀ o, ofJson text = .ok o ↔ GivesByPlace text o) ∧
      ((∃ fault, ofJson text = .error (.invalidOptions fault)) ↔
        ¬ ∃ o, GivesByPlace text o) := by
  have hok : ∀ o, ofJson text = .ok o ↔ GivesByPlace text o :=
    fun o => ⟨givesByPlace_of_ofJson hobject, ofJson_of_givesByPlace⟩
  refine ⟨hok, ?_⟩
  rw [exists_fault_iff]
  simp only [hok]

theorem pair_gives_and_null_is_refused :
    ((skipGaps "[null,\"./styles\"]".toList).head? ≠ some '\x7b' ∧
      ofJson "[null,\"./styles\"]" = .ok ⟨none, some "./styles"⟩) ∧
    ((skipGaps "null".toList).head? ≠ some '\x7b' ∧
      ∃ fault, ofJson "null" = .error (.invalidOptions fault)) := by
  have hpair : (skipGaps "[null,\"./styles\"]".toList).head? ≠ some '\x7b' := by decide
  have hnull : (skipGaps "null".toList).head? ≠ some '\x7b' := by decide
  refine ⟨⟨hpair, ?_⟩, hnull, ?_⟩
  · rw [(ofJson_eq_ok_iff_givesByPlace hpair).1]
    exact ⟨[none, some "./styles"], Nat.le_refl 2,
      Json.spaced_text (.array [.null, .string "./styles"]), rfl⟩
  · rw [(ofJson_eq_ok_iff_givesByPlace hnull).2]
    rintro ⟨o, items, -, hspaced, -⟩
    -- an array opens with its bracket
    rw [tokens_array] at hspaced
    rcases hspaced.skipGaps_mark rfl with ⟨rest, -, hgaps⟩
    cases hgaps

/-- An array is no object, and yet this one sets the name of the component. -/
theorem nameArray_not_refused :
    Spaced (Json.array [.string "UserCard"]).tokens "[\"UserCard\"]".toList ∧
      ofJson "[\"UserCard\"]" = .ok ⟨some "UserCard", none⟩ ∧
      ¬ ∃ fault, ofJson "[\"UserCard\"]" = .error (.invalidOptions fault) := by
  have hspaced : Spaced (Json.array [.string "UserCard"]).tokens "[\"UserCard\"]".toList :=
    Json.spaced_text (.array [.string "UserCard"])
  have hok : ofJson "[\"UserCard\"]" = .ok ⟨some "UserCard", none⟩ :=
    ofJson_of_givesByPlace ⟨[some "UserCard"], Nat.le_succ 1, hspaced, rfl⟩
  refine ⟨hspaced, hok, ?_⟩
  rw [exists_fault_iff]
  exact fun h => h ⟨_, hok⟩

end HtmlComponent.Options
