import HtmlComponent.Options.Reader
import HtmlComponent.Proofs.Options.Skip

/-!
# Options written as an object

The reader of options takes the members of an object one after another into a draft. It gets through
all of them exactly if each field comes up at most once and is a string or null, wherever it stands
and whatever the other members hold; then the fields of the options are those values. So options
that are written out come back.
-/

namespace HtmlComponent.Options

open Json (Token Spaced memberTokensOf)

variable {s rest : List Char} {later : List Token} {draft : Draft} {key : String} {value : Json}

/-! ## The value of a field -/

/-- The text that a value gives for a field, if it is a string or null. -/
def fieldText? : Json → Option (Option String)
  | .null => some none
  | .string text => some (some text)
  | _ => none

theorem fieldText?_eq_some_iff {text : Option String} :
    fieldText? value = some text ↔ value = .optional text := by
  cases value <;> cases text <;> simp [fieldText?, Json.optional]

theorem exists_invalidType {α : Type} (wanted : Wanted) (s : List Char) :
    ∃ stop, (invalidType wanted s : Except Stop α) = .error stop := by
  unfold invalidType
  split
  · exact ⟨_, rfl⟩
  · exact ⟨_, rfl⟩

theorem fieldValue_eq {c : Char} (h : skipGaps s = c :: rest) :
    fieldValue s =
      if c == 'n' then
        match word ['u', 'l', 'l'] rest with
        | .error e => .error e
        | .ok left => .ok (left.taken none (length_lt_of_skipGaps h))
      else if c == '"' then
        match stringBody rest with
        | .error e => .error e
        | .ok text =>
          .ok (text.left.taken (some (String.ofList text.value)) (length_lt_of_skipGaps h))
      else invalidType .text (c :: rest) := by
  unfold fieldValue
  split
  · rename_i heq
    rw [h] at heq
    cases heq
  · rename_i d t heq
    obtain ⟨rfl, rfl⟩ := List.cons.inj (h.symm.trans heq)
    rfl

theorem fieldValue_null (h : skipGaps s = 'n' :: (['u', 'l', 'l'] ++ rest)) :
    Takes (fieldValue s) none rest := by
  obtain ⟨hle, hread⟩ := exists_of_left? (left?_word ['u', 'l', 'l'] rest)
  refine ⟨Nat.lt_of_le_of_lt hle (length_lt_of_skipGaps h), ?_⟩
  rw [fieldValue_eq h]
  simp only [beq_self_eq_true, ↓reduceIte, hread]
  rfl

theorem fieldValue_string {text : String} {t : List Char} (ht : Text.Spelled text.toList t)
    (h : skipGaps s = '"' :: (t ++ '"' :: rest)) : Takes (fieldValue s) (some text) rest := by
  obtain ⟨hless, hread⟩ := Text.stringBody_spelled ht rest
  refine ⟨Nat.lt_trans hless (length_lt_of_skipGaps h), ?_⟩
  rw [fieldValue_eq h]
  simp only [Char.reduceBEq, Bool.false_eq_true, beq_self_eq_true, ↓reduceIte, hread,
    String.ofList_toList]
  rfl

theorem exists_fieldValue_error {c : Char} (h : skipGaps s = c :: rest) (hn : c ≠ 'n')
    (hquote : c ≠ '"') : ∃ stop, fieldValue s = .error stop := by
  rw [fieldValue_eq h]
  simp only [beq_eq_false_iff_ne.mpr hn, beq_eq_false_iff_ne.mpr hquote, Bool.false_eq_true,
    ↓reduceIte]
  exact exists_invalidType _ _

theorem ne_of_starts {token : Token} {more : List Token} (htokens : value.tokens = token :: more)
    (hnone : fieldText? value = none) {c : Char} (hc : token.starts c = true) :
    c ≠ 'n' ∧ c ≠ '"' := by
  cases value with
  | null | string _ => cases hnone
  | bool b =>
    cases htokens
    cases b <;> constructor <;> rintro rfl <;> cases hc
  | int _ | array _ | object _ =>
    cases htokens
    constructor <;> rintro rfl <;> cases hc

/-- A field is read if its value is a string or null, and refused otherwise. -/
theorem fieldValue_spaced (h : Spaced (value.tokens ++ later) s) :
    (∃ text rest, fieldText? value = some text ∧ Takes (fieldValue s) text rest ∧
      Spaced later rest) ∨
    (fieldText? value = none ∧ ∃ stop, fieldValue s = .error stop) := by
  cases hvalue : fieldText? value with
  | none =>
    obtain ⟨token, more, htokens⟩ : ∃ token more, value.tokens = token :: more := by
      cases value <;> exact ⟨_, _, rfl⟩
    rw [htokens] at h
    obtain ⟨_, rest, ht, -, hgaps⟩ := h.skipGaps_cons
    obtain ⟨c, cs, rfl, hc⟩ := ht.exists_head
    have hne := ne_of_starts htokens hvalue hc
    exact .inr ⟨rfl, exists_fieldValue_error hgaps hne.1 hne.2⟩
  | some text =>
    rw [fieldText?_eq_some_iff] at hvalue
    subst hvalue
    left
    cases text with
    | none =>
      obtain ⟨t, rest, ht, hrest, hgaps⟩ := h.skipGaps_cons
      cases ht
      exact ⟨none, rest, rfl, fieldValue_null hgaps, hrest⟩
    | some text =>
      obtain ⟨_, rest, ht, hrest, hgaps⟩ := h.skipGaps_cons
      cases ht with
      | @string _ t hspelled =>
        rw [List.cons_append, List.append_assoc, List.singleton_append] at hgaps
        exact ⟨some text, rest, rfl, fieldValue_string hspelled hgaps, hrest⟩

/-! ## One member -/

/-- The draft with one more member, unless the member is a field that is there already or has a
value of the wrong kind. -/
def Draft.take (draft : Draft) (member : String × Json) : Option Draft :=
  match Field.ofKey? member.1.toList with
  | none => some draft
  | some field =>
    if (draft.get field).isSome then none else (fieldText? member.2).map (draft.set field)

theorem exists_duplicate {α : Type} (field : Field) (s : List Char) :
    ∃ stop, (duplicate field s : Except Stop α) = .error stop := by
  unfold duplicate
  split
  · exact ⟨_, rfl⟩
  · exact ⟨_, rfl⟩

theorem member_spaced (draft : Draft) (key : String) (hlater : FollowsValue later)
    (h : Spaced (.colon :: value.tokens ++ later) s) :
    (∃ draft' rest, draft.take (key, value) = some draft' ∧
      Takes (member draft key.toList s) draft' rest ∧ Spaced later rest) ∨
    (draft.take (key, value) = none ∧ ∃ stop, member draft key.toList s = .error stop) := by
  obtain ⟨t, ⟨hless, hcolon⟩, ht⟩ := colon_spaced h
  unfold member Draft.take
  cases Field.ofKey? key.toList with
  | none =>
    -- any other key: its value is passed over
    obtain ⟨rest, hskip, hrest⟩ := skipValue_spaced hlater ht
    obtain ⟨hle, hread⟩ := exists_of_left? hskip
    refine .inl ⟨draft, rest, rfl, ⟨Nat.lt_of_le_of_lt hle hless, ?_⟩, hrest⟩
    simp only [hcolon, hread]
    rfl
  | some field =>
    -- a field that comes up again is refused before its value is looked at
    by_cases hthere : (draft.get field).isSome = true
    · simp only [hthere, ↓reduceIte]
      exact .inr ⟨trivial, exists_duplicate field s⟩
    · rw [Bool.not_eq_true] at hthere
      simp only [hthere, Bool.false_eq_true, ↓reduceIte, hcolon]
      rcases fieldValue_spaced ht with
        ⟨text, rest, htext, ⟨hle, hread⟩, hrest⟩ | ⟨hnone, stop, hread⟩
      · refine .inl ⟨draft.set field text, rest, ?_, ⟨Nat.lt_trans hle hless, ?_⟩, hrest⟩
        · rw [htext]
          rfl
        · simp only [hread]
          rfl
      · rw [hnone, hread]
        exact .inr ⟨rfl, stop, rfl⟩

/-! ## All members -/

theorem nextMember_eq (first : Bool) {c : Char} (h : skipGaps s = c :: rest) :
    nextMember first s =
      if c == '\x7d' then .ok (.inl rest)
      else if first then .ok (.inr ⟨c :: rest, length_lt_of_skipGaps h⟩)
      else if c == ',' then .ok (.inr ⟨rest, length_le_of_skipGaps h⟩)
      else ahead .expectedObjectCommaOrEnd (c :: rest) := by
  unfold nextMember
  split
  · rename_i heq
    rw [h] at heq
    cases heq
  · rename_i d t heq
    obtain ⟨rfl, rfl⟩ := List.cons.inj (h.symm.trans heq)
    rfl

theorem nextMember_close (first : Bool) (h : Spaced (.closes .object :: later) s) :
    ∃ rest, nextMember first s = .ok (.inl rest) ∧ Spaced later rest := by
  obtain ⟨rest, hrest, hgaps⟩ := h.skipGaps_mark rfl
  exact ⟨rest, nextMember_eq first hgaps, hrest⟩

theorem nextMember_comma (h : Spaced (.comma :: later) s) :
    ∃ atKey hle, nextMember false s = .ok (.inr ⟨atKey, hle⟩) ∧ Spaced later atKey := by
  obtain ⟨atKey, hkey, hgaps⟩ := h.skipGaps_mark rfl
  exact ⟨atKey, _, nextMember_eq false hgaps, hkey⟩

theorem nextMember_first (h : Spaced (.string key :: later) s) :
    ∃ atKey hle, nextMember true s = .ok (.inr ⟨atKey, hle⟩) ∧
      Spaced (.string key :: later) atKey := by
  obtain ⟨_, rest, ht, hrest, hgaps⟩ := h.skipGaps_cons
  have hkey := Spaced.tight ht hrest
  cases ht
  exact ⟨_, _, nextMember_eq true hgaps, hkey⟩

theorem keyQuote_spaced (h : Spaced (.string key :: later) s) :
    ∃ inKey afterKey, Takes (keyQuote s) () inKey ∧ Takes (stringBody inKey) key.toList afterKey ∧
      Spaced later afterKey := by
  obtain ⟨_, rest, ht, hrest, hgaps⟩ := h.skipGaps_cons
  cases ht with
  | @string _ t hspelled =>
    rw [List.cons_append, List.append_assoc, List.singleton_append] at hgaps
    refine ⟨t ++ '"' :: rest, rest, ⟨length_lt_of_skipGaps hgaps, ?_⟩,
      Text.stringBody_spelled hspelled rest, hrest⟩
    unfold keyQuote
    split
    · rename_i heq
      rw [hgaps] at heq
      cases heq
    · rename_i c u heq
      obtain ⟨rfl, rfl⟩ := List.cons.inj (hgaps.symm.trans heq)
      rfl

/-- A reading that ends as the members do in the draft: at the end of the object, or in a stop. -/
def Agrees (later : List Token) (taken : Option Draft)
    (read : Except Stop (Options × List Char)) : Prop :=
  match taken with
  | some draft => ∃ rest, read = .ok (draft.finish, rest) ∧ Spaced later rest
  | none => ∃ stop, read = .error stop

theorem agrees_close (first : Bool) (draft : Draft) (h : Spaced (.closes .object :: later) s) :
    Agrees later (some draft) (members first draft s) := by
  obtain ⟨rest, hnext, hrest⟩ := nextMember_close first h
  refine ⟨rest, ?_, hrest⟩
  rw [members]
  simp only [hnext]

/-- From the place where a key is due, one member is taken into the draft. -/
theorem agrees_cons {first : Bool} {atKey : List Char} {hle : atKey.length ≤ s.length}
    (hnext : nextMember first s = .ok (.inr ⟨atKey, hle⟩)) {between : List Token}
    (hfollows : FollowsValue between) (h : Spaced (memberTokensOf (key, value) ++ between) atKey)
    {ms : List (String × Json)}
    (hrest : ∀ draft' rest, Spaced between rest →
      Agrees later (ms.foldlM Draft.take draft') (members false draft' rest)) :
    Agrees later (((key, value) :: ms).foldlM Draft.take draft) (members first draft s) := by
  obtain ⟨inKey, afterKey, ⟨_, hquote⟩, ⟨_, hkey⟩, hafter⟩ := keyQuote_spaced h
  rw [members, List.foldlM_cons]
  simp only [hnext, hquote, hkey]
  rcases member_spaced draft key hfollows hafter with
    ⟨draft', rest, htake, ⟨_, hread⟩, hspaced⟩ | ⟨hnone, stop, hread⟩
  · simp only [htake, hread]
    exact hrest draft' rest hspaced
  · simp only [hnone, hread]
    exact ⟨stop, rfl⟩

/-- All further members, a comma before each. -/
theorem agrees_next (ms : List (String × Json)) (draft : Draft)
    (h : Spaced ((ms.map memberTokensOf).flatMap (.comma :: ·) ++ .closes .object :: later) s) :
    Agrees later (ms.foldlM Draft.take draft) (members false draft s) := by
  induction ms generalizing draft s with
  | nil => exact agrees_close false draft h
  | cons m ms ih =>
    rw [List.map_cons, List.flatMap_cons, List.append_assoc] at h
    obtain ⟨atKey, hle, hnext, hkey⟩ := nextMember_comma h
    exact agrees_cons hnext followsValue_items hkey fun draft' _ => ih draft'

theorem agrees_first (ms : List (String × Json)) (draft : Draft)
    (h : Spaced ([.comma].intercalate (ms.map memberTokensOf) ++ .closes .object :: later) s) :
    Agrees later (ms.foldlM Draft.take draft) (members true draft s) := by
  cases ms with
  | nil => exact agrees_close true draft h
  | cons m ms =>
    rw [List.map_cons, Json.intercalate_comma_cons, List.append_assoc] at h
    obtain ⟨atKey, hle, hnext, hkey⟩ := nextMember_first h
    exact agrees_cons hnext followsValue_items hkey fun draft' _ => agrees_next ms draft'

/-- Reading an object is taking its members into an empty draft. -/
theorem ofJson_spaced {ms : List (String × Json)} {text : String}
    (h : Spaced (Json.object ms).tokens text.toList) :
    (∃ draft, ms.foldlM Draft.take ⟨none, none⟩ = some draft ∧ ofJson text = .ok draft.finish) ∨
    (ms.foldlM Draft.take ⟨none, none⟩ = none ∧
      ∃ fault, ofJson text = .error (.invalidOptions fault)) := by
  rw [Json.tokens, Json.memberTokens_eq_map] at h
  obtain ⟨inside, hinside, hgaps⟩ := h.skipGaps_mark rfl
  have hread : read text.toList = members true ⟨none, none⟩ inside := by
    simp only [read, hgaps]
    rfl
  have hagrees := agrees_first ms ⟨none, none⟩ hinside
  unfold ofJson decode readAll
  rw [hread]
  cases hms : ms.foldlM Draft.take ⟨none, none⟩ with
  | some draft =>
    rw [hms] at hagrees
    obtain ⟨rest, hmembers, hrest⟩ := hagrees
    refine .inl ⟨draft, rfl, ?_⟩
    simp only [hmembers, hrest.skipGaps_nil]
  | none =>
    rw [hms] at hagrees
    obtain ⟨stop, hmembers⟩ := hagrees
    refine .inr ⟨rfl, stop.locate text, ?_⟩
    simp only [hmembers]

/-! ## What a draft holds -/

/-- The values that the members give for a field, in their order. -/
def values (ms : List (String × Json)) (field : Field) : List Json :=
  (ms.filter (·.1 == field.key)).map Prod.snd

/-- The field comes up at most once, as a string or null. -/
def GivenOnce (ms : List (String × Json)) (field : Field) : Prop :=
  (values ms field).length ≤ 1 ∧
    ∀ value ∈ values ms field, value = .null ∨ ∃ text, value = .string text

/-- A draft holds what the members give for its fields. -/
def Drafts (ms : List (String × Json)) (draft : Draft) : Prop :=
  ∀ field, (values ms field = [] ∧ draft.get field = none) ∨
    ∃ text, values ms field = [.optional text] ∧ draft.get field = some text

theorem ofKey?_eq_some_iff {field : Field} :
    Field.ofKey? key.toList = some field ↔ key = field.key := by
  have hname : Field.name.key ≠ Field.styleLibrary.key := by decide
  unfold Field.ofKey?
  simp only [String.toList_inj]
  split
  · rename_i heq
    subst heq
    cases field <;> simp [hname]
  · rename_i hne
    cases field <;> simp [hne]

theorem get_set (draft : Draft) (field other : Field) (text : Option String) :
    (draft.set field text).get other = if other = field then some text else draft.get other := by
  cases field <;> cases other <;> rfl

theorem take_optional {field : Field} (h : draft.get field = none) (text : Option String) :
    draft.take (field.key, .optional text) = some (draft.set field text) := by
  have hkey : Field.ofKey? field.key.toList = some field := ofKey?_eq_some_iff.mpr rfl
  have htext : fieldText? (.optional text) = some text := fieldText?_eq_some_iff.mpr rfl
  unfold Draft.take
  rw [hkey, htext]
  simp only [h, Option.isSome_none, Bool.false_eq_true, ↓reduceIte, Option.map_some]

theorem values_append (ms ns : List (String × Json)) (field : Field) :
    values (ms ++ ns) field = values ms field ++ values ns field := by
  simp only [values, List.filter_append, List.map_append]

theorem values_cons (m : String × Json) (ms : List (String × Json)) (field : Field) :
    values (m :: ms) field =
      if m.1 = field.key then m.2 :: values ms field else values ms field := by
  simp only [values, List.filter_cons, beq_iff_eq]
  split <;> rfl

theorem drafts_nil : Drafts [] ⟨none, none⟩ := by
  intro field
  cases field <;> exact .inl ⟨rfl, rfl⟩

theorem Drafts.take {ms : List (String × Json)} {m : String × Json} {draft' : Draft}
    (h : Drafts ms draft) (ht : draft.take m = some draft') : Drafts (ms ++ [m]) draft' := by
  intro field
  rw [values_append, values_cons]
  unfold Draft.take at ht
  cases hkey : Field.ofKey? m.1.toList with
  | none =>
    -- the member is no field, so nothing changes
    rw [hkey] at ht
    obtain rfl := Option.some.inj ht
    have hne : m.1 ≠ field.key := by
      intro heq
      rw [ofKey?_eq_some_iff.mpr heq] at hkey
      cases hkey
    rw [if_neg hne]
    simpa [values] using h field
  | some own =>
    have hown := ofKey?_eq_some_iff.mp hkey
    rw [hkey] at ht
    simp only at ht
    split at ht
    · cases ht
    · rename_i hmissing
      obtain ⟨text, htext, rfl⟩ := Option.map_eq_some_iff.mp ht
      rw [fieldText?_eq_some_iff] at htext
      rw [get_set]
      by_cases hfield : field = own
      · -- the field was missing before, so this value is its only one
        subst hfield
        rcases h field with ⟨hvalues, -⟩ | ⟨_, -, hget⟩
        · rw [if_pos hown, if_pos rfl, hvalues, htext]
          exact .inr ⟨text, rfl, rfl⟩
        · rw [hget] at hmissing
          exact absurd rfl hmissing
      · have hne : m.1 ≠ field.key := by
          intro heq
          rw [ofKey?_eq_some_iff.mpr heq] at hkey
          exact hfield (Option.some.inj hkey)
        rw [if_neg hne, if_neg hfield]
        simpa [values] using h field

theorem Drafts.refuse {ms : List (String × Json)} {m : String × Json} (h : Drafts ms draft)
    (ht : draft.take m = none) (later : List (String × Json)) :
    ∃ field, ¬ GivenOnce (ms ++ m :: later) field := by
  unfold Draft.take at ht
  split at ht
  · cases ht
  · rename_i field hkey
    have hown := ofKey?_eq_some_iff.mp hkey
    have hvalues : values (ms ++ m :: later) field =
        values ms field ++ m.2 :: values later field := by
      rw [values_append, values_cons, if_pos hown]
    refine ⟨field, fun hgiven => ?_⟩
    unfold GivenOnce at hgiven
    rw [hvalues] at hgiven
    split at ht
    · -- the field is there already
      rename_i hthere
      rcases h field with ⟨-, hget⟩ | ⟨text, hheld, -⟩
      · rw [hget] at hthere
        cases hthere
      · have hlength := hgiven.1
        simp only [hheld, List.length_append, List.length_cons, List.length_nil] at hlength
        omega
    · -- the value is of the wrong kind
      have hnone := Option.map_eq_none_iff.mp ht
      rcases hgiven.2 m.2 (by simp) with heq | ⟨text, heq⟩
      · rw [heq] at hnone
        cases hnone
      · rw [heq] at hnone
        cases hnone

theorem foldlM_take {done : List (String × Json)} (h : Drafts done draft)
    (ms : List (String × Json)) :
    (∃ draft', ms.foldlM Draft.take draft = some draft' ∧ Drafts (done ++ ms) draft') ∨
    (ms.foldlM Draft.take draft = none ∧ ∃ field, ¬ GivenOnce (done ++ ms) field) := by
  induction ms generalizing done draft with
  | nil =>
    rw [List.append_nil]
    exact .inl ⟨draft, rfl, h⟩
  | cons m ms ih =>
    rw [List.foldlM_cons]
    cases htake : draft.take m with
    | none => exact .inr ⟨rfl, h.refuse htake ms⟩
    | some draft' =>
      have hnext := ih (h.take htake)
      rwa [List.append_assoc] at hnext

/-! ## Options -/

def get (o : Options) : Field → Option String
  | .name => o.name
  | .styleLibrary => o.styleLibrary

theorem get_finish (draft : Draft) (field : Field) :
    draft.finish.get field = (draft.get field).getD none := by
  cases field <;> rfl

theorem Drafts.givenOnce {ms : List (String × Json)} (h : Drafts ms draft) (field : Field) :
    GivenOnce ms field := by
  unfold GivenOnce
  rcases h field with ⟨hvalues, -⟩ | ⟨text, hvalues, -⟩
  · simp [hvalues]
  · cases text <;> simp [hvalues, Json.optional]

/-- An object gives options exactly if each field comes up at most once, as a string or null. The
fields of the options are then those values; in every other case there is a fault. -/
theorem ofJson_object_iff {ms : List (String × Json)} {text : String}
    (h : Spaced (Json.object ms).tokens text.toList) :
    ((∃ o, ofJson text = .ok o) ↔ ∀ field, GivenOnce ms field) ∧
    (∀ o, ofJson text = .ok o → ∀ field,
      (values ms field = [] → o.get field = none) ∧
      ∀ value ∈ values ms field, value = .optional (o.get field)) ∧
    ((∃ field, ¬ GivenOnce ms field) →
      ∃ fault, ofJson text = .error (.invalidOptions fault)) := by
  have hrun := foldlM_take drafts_nil ms
  rw [List.nil_append] at hrun
  rcases ofJson_spaced h with ⟨draft, hdraft, hok⟩ | ⟨hnone, fault, herror⟩
  · obtain hdrafts : Drafts ms draft := by
      rcases hrun with ⟨draft', hdraft', hdrafts⟩ | ⟨hnone, -⟩
      · rw [hdraft] at hdraft'
        exact Option.some.inj hdraft' ▸ hdrafts
      · rw [hdraft] at hnone
        cases hnone
    refine ⟨⟨fun _ => hdrafts.givenOnce, fun _ => ⟨_, hok⟩⟩, ?_, ?_⟩
    · intro o ho field
      rw [hok] at ho
      obtain rfl := Except.ok.inj ho
      rw [get_finish]
      rcases hdrafts field with ⟨hvalues, hget⟩ | ⟨text, hvalues, hget⟩
      · simp [hvalues, hget]
      · simp [hvalues, hget]
    · rintro ⟨field, hnot⟩
      exact absurd (hdrafts.givenOnce field) hnot
  · obtain ⟨field, hnot⟩ : ∃ field, ¬ GivenOnce ms field := by
      rcases hrun with ⟨draft, hdraft, -⟩ | ⟨-, hnot⟩
      · rw [hnone] at hdraft
        cases hdraft
      · exact hnot
    refine ⟨⟨?_, fun hgiven => absurd (hgiven field) hnot⟩, ?_, fun _ => ⟨fault, herror⟩⟩
    · rintro ⟨o, ho⟩
      rw [herror] at ho
      cases ho
    · intro o ho
      rw [herror] at ho
      cases ho

/-- Blanks of all kinds, escapes of one and of two units, and a member that is passed over. -/
def spreadText : String :=
  "\x7b \"na\\u006de\" :\t\"\\uD83D\\ude00\",\r\n\"\":[-20,\x7b\"\":[]\x7d ],\"styleLibrary\":null\x7d\n"

def spreadMembers : List (String × Json) :=
  [("name", .string "😀"), ("", .array [.int (-20), .object [("", .array [])]]),
    ("styleLibrary", .null)]

theorem spelled_escapedName : Text.Spelled "name".toList "na\\u006de".toList := by
  have hn : Text.SpelledChar 'n' ['n'] := .plain (by decide) (by decide) (by decide)
  have ha : Text.SpelledChar 'a' ['a'] := .plain (by decide) (by decide) (by decide)
  have he : Text.SpelledChar 'e' ['e'] := .plain (by decide) (by decide) (by decide)
  have h0 : Text.IsHexDigit 0 '0' := ⟨by decide, .inl rfl⟩
  have h6 : Text.IsHexDigit 6 '6' := ⟨by decide, .inl rfl⟩
  have hd : Text.IsHexDigit 13 'd' := ⟨by decide, .inl rfl⟩
  have hm : Text.SpelledChar 'm' "\\u006d".toList := .code (.digits h0 h0 h6 hd)
  exact .cons hn (.cons ha (.cons hm (.cons he .nil)))

theorem spelled_surrogates : Text.Spelled "😀".toList "\\uD83D\\ude00".toList := by
  have h0 : Text.IsHexDigit 0 '0' := ⟨by decide, .inl rfl⟩
  have h3 : Text.IsHexDigit 3 '3' := ⟨by decide, .inl rfl⟩
  have h8 : Text.IsHexDigit 8 '8' := ⟨by decide, .inl rfl⟩
  have hd : Text.IsHexDigit 13 'd' := ⟨by decide, .inl rfl⟩
  have he : Text.IsHexDigit 14 'e' := ⟨by decide, .inl rfl⟩
  have hD : Text.IsHexDigit 13 'D' := ⟨by decide, .inr (by decide)⟩
  have hhigh : 0x3D < 0x400 := by decide
  have hlow : 0x200 < 0x400 := by decide
  have hface : Text.SpelledChar '😀' "\\uD83D\\ude00".toList :=
    .pair hhigh hlow rfl (.digits hD h8 h3 hD) (.digits hd he h0 h0)
  exact .cons hface .nil

theorem spaced_spreadText : Spaced (Json.object spreadMembers).tokens spreadText.toList := by
  have hspace : ∀ c ∈ [' '], isGap c = true := by simp [isGap]
  have htab : ∀ c ∈ ['\t'], isGap c = true := by simp [isGap]
  have hline : ∀ c ∈ ['\r', '\n'], isGap c = true := by simp [isGap]
  have hnil : Text.Spelled "".toList [] := .nil
  have hempty : Token.Written (.string "") ['"', '"'] := .string hnil
  -- from the end of the text to its beginning
  have hend : Spaced [] ['\n'] := .blank (by simp [isGap])
  have hstyle := Spaced.tight (Json.written_jsonString "styleLibrary")
    (.tight .colon (.tight .null (.tight (.closes .object) hend)))
  have hclose := Spaced.tight (.closes .object)
    (.behind hspace (.tight (.closes .list) (.tight .comma hstyle)))
  have hinner := Spaced.tight (.opens .object) (.tight hempty (.tight .colon
    (.tight (.opens .list) (.tight (.closes .list) hclose))))
  have hunknown := Spaced.tight hempty (.tight .colon (.tight (.opens .list)
    (.tight (.minus 20) (.tight .comma hinner))))
  have hvalue := Spaced.tight (.string spelled_surrogates) (.tight .comma (.behind hline hunknown))
  have hname := Spaced.tight (.string spelled_escapedName)
    (.behind hspace (.tight .colon (.behind htab hvalue)))
  exact .tight (.opens .object) (.behind hspace hname)

/-- A name that is null and comes up again. -/
def twiceNamed : List (String × Json) :=
  [("name", .null), ("name", .null)]

theorem ofJson_spreadText :
    (Spaced (Json.object spreadMembers).tokens spreadText.toList ∧
      ∃ o, ofJson spreadText = .ok o ∧ o.get .name = some "😀" ∧ o.get .styleLibrary = none) ∧
    (¬ GivenOnce twiceNamed .name ∧
      ∃ fault, ofJson (Json.object twiceNamed).text = .error (.invalidOptions fault)) := by
  constructor
  · have hname : values spreadMembers .name = [.optional (some "😀")] := rfl
    have hstyle : values spreadMembers .styleLibrary = [.optional none] := rfl
    have hgiven : ∀ field, GivenOnce spreadMembers field := by
      intro field
      unfold GivenOnce
      cases field with
      | name => simp [hname, Json.optional]
      | styleLibrary => simp [hstyle, Json.optional]
    have h := ofJson_object_iff spaced_spreadText
    have hok : ∃ o, ofJson spreadText = .ok o := h.1.mpr hgiven
    obtain ⟨o, ho⟩ := hok
    have hn := (h.2.1 o ho .name).2 _ (hname ▸ List.mem_singleton_self _)
    have hs := (h.2.1 o ho .styleLibrary).2 _ (hstyle ▸ List.mem_singleton_self _)
    refine ⟨spaced_spreadText, o, ho, ?_, ?_⟩
    · exact (Option.some.inj (fieldText?_eq_some_iff.mpr hn)).symm
    · exact (Option.some.inj (fieldText?_eq_some_iff.mpr hs)).symm
  · have htwice : values twiceNamed .name = [.null, .null] := rfl
    have hnot : ¬ GivenOnce twiceNamed .name := by
      intro h
      have hlength := h.1
      rw [htwice] at hlength
      exact absurd hlength (by decide)
    have h := ofJson_object_iff (Json.spaced_text (.object twiceNamed))
    exact ⟨hnot, h.2.2 ⟨.name, hnot⟩⟩

/-- Options that are written out are read back as they were. -/
theorem ofJson_toJson (o : Options) : ofJson o.toJson.text = .ok o := by
  have hname : Draft.take ⟨none, none⟩ (Field.name.key, .optional o.name) =
      some ⟨some o.name, none⟩ := take_optional rfl o.name
  have hstyle : Draft.take ⟨some o.name, none⟩ (Field.styleLibrary.key, .optional o.styleLibrary) =
      some ⟨some o.name, some o.styleLibrary⟩ := take_optional rfl o.styleLibrary
  have hrun : [(Field.name.key, Json.optional o.name),
      (Field.styleLibrary.key, Json.optional o.styleLibrary)].foldlM Draft.take ⟨none, none⟩ =
        some ⟨some o.name, some o.styleLibrary⟩ := by
    rw [List.foldlM_cons, hname, Option.bind_eq_bind, Option.bind_some, List.foldlM_cons, hstyle]
    rfl
  rcases ofJson_spaced (Json.spaced_text o.toJson) with ⟨draft, hdraft, hok⟩ | ⟨hnone, -⟩
  · obtain rfl := Option.some.inj (hrun.symm.trans hdraft)
    exact hok
  · cases hrun.symm.trans hnone

end HtmlComponent.Options
