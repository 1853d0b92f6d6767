import HtmlComponent.Identifier

/-!
# Names and the lists that import them

Simple names are those of ordinary markup; lower case keeps them simple. The identifiers of a list
are found again by splitting it at its separator, as long as no name is empty or holds a space.
-/

namespace HtmlComponent.Identifier

/-! ## Simple names -/

def isSimpleChar (c : Char) : Bool :=
  c.isAlphanum || c == '-'

/-- A name is simple when it is not empty and has no characters but letters, digits and hyphens, all
of them ASCII. -/
def isSimple (name : String) : Bool :=
  !name.toList.isEmpty && name.toList.all isSimpleChar

theorem isSimple_iff {name : String} :
    isSimple name ↔ name.toList ≠ [] ∧ ∀ c ∈ name.toList, isSimpleChar c := by
  simp [isSimple]

theorem toNat_lt_of_isSimpleChar {c : Char} (h : isSimpleChar c) : c.toNat < 128 := by
  change (decide (65 ≤ c.val ∧ c.val ≤ 90) || (decide (97 ≤ c.val) && decide (c.val ≤ 122)) ||
    (decide (48 ≤ c.val) && decide (c.val ≤ 57)) || c == '-') = true at h
  simp only [Bool.or_eq_true, Bool.and_eq_true, decide_eq_true_eq, beq_iff_eq,
    UInt32.le_iff_toNat_le] at h
  change (((65 ≤ c.toNat ∧ c.toNat ≤ 90) ∨ (97 ≤ c.toNat ∧ c.toNat ≤ 122)) ∨
    (48 ≤ c.toNat ∧ c.toNat ≤ 57)) ∨ c = '-' at h
  rcases h with h | rfl
  · omega
  · decide

/-- What holds of all simple characters can be read off a table of the ASCII ones. -/
theorem forall_isSimpleChar {p : Char → Bool}
    (h : ∀ n < 128, isSimpleChar (Char.ofNat n) → p (Char.ofNat n)) {c : Char}
    (hc : isSimpleChar c) : p c := by
  have hn := h c.toNat (toNat_lt_of_isSimpleChar hc)
  rw [Char.ofNat_toNat] at hn
  exact hn hc

theorem lowerChar_of_isSimpleChar {c : Char} (h : isSimpleChar c) :
    c ≠ 'Σ' ∧ Text.lowerChar c ≠ [] ∧ ∀ d ∈ Text.lowerChar c, isSimpleChar d := by
  have htable := forall_isSimpleChar
    (p := fun c => c != 'Σ' && !(Text.lowerChar c).isEmpty && (Text.lowerChar c).all isSimpleChar)
    (by decide +kernel) h
  simpa [and_assoc] using htable

theorem lowerFrom_of_isSimpleChar (before : List Char) {cs : List Char}
    (h : ∀ c ∈ cs, isSimpleChar c) :
    (cs ≠ [] → Text.lowerFrom before cs ≠ []) ∧
      ∀ d ∈ Text.lowerFrom before cs, isSimpleChar d := by
  induction cs generalizing before with
  | nil => simp [Text.lowerFrom]
  | cons c cs ih =>
    rw [List.forall_mem_cons] at h
    rcases lowerChar_of_isSimpleChar h.1 with ⟨hsigma, hne, hall⟩
    rw [Text.lowerFrom, if_neg (by simpa using hsigma)]
    refine ⟨fun _ => by simp [hne], fun d hd => ?_⟩
    rcases List.mem_append.mp hd with hd | hd
    · exact hall d hd
    · exact (ih (c :: before) h.2).2 d hd

theorem isSimple_lower {name : String} (h : isSimple name) : isSimple (Text.lower name) := by
  rw [isSimple_iff] at h ⊢
  rcases lowerFrom_of_isSimpleChar [] h.2 with ⟨hne, hall⟩
  rw [Text.lower, String.toList_ofList]
  exact ⟨hne h.1, hall⟩

/-! ## Sanitized names -/

theorem toList_sanitize (name : String) :
    (sanitize name).toList = name.toList.map fun c => if c == '-' then '_' else c :=
  String.toList_ofList

theorem hyphen_not_mem_sanitize (name : String) : '-' ∉ (sanitize name).toList := by
  rw [toList_sanitize, List.mem_map]
  rintro ⟨c, -, hc⟩
  split at hc
  · exact absurd hc (by decide)
  · rename_i hne
    exact hne (by simpa using hc)

theorem sanitize_eq_self {name : String} (h : '-' ∉ name.toList) : sanitize name = name := by
  have hchar : ∀ c ∈ name.toList, (if c == '-' then '_' else c) = c := by
    intro c hc
    have hne : c ≠ '-' := by
      rintro rfl
      exact h hc
    rw [if_neg (by simpa using hne)]
  rw [sanitize, List.map_congr_left hchar, List.map_id', String.ofList_toList]

/-! ## Names with one identifier -/

/-- The two characters that become one in an identifier. -/
def isJoint (c : Char) : Bool :=
  c == '-' || c == '_'

def alikeChars : List Char → List Char → Bool
  | [], [] => true
  | c :: cs, d :: ds => (c == d || (isJoint c && isJoint d)) && alikeChars cs ds
  | _, _ => false

/-- Whether two names are the same but for hyphens in the place of underscores. -/
def alike (s t : String) : Bool :=
  alikeChars s.toList t.toList

theorem sanitized_char_eq_iff (c d : Char) :
    (if c == '-' then '_' else c) = (if d == '-' then '_' else d) ↔
      (c == d || (isJoint c && isJoint d)) = true := by
  -- only a hyphen is changed, so there are four cases to look at
  by_cases hc : c = '-'
  · by_cases hd : d = '-'
    · simp [hc, hd]
    · have hne : '-' ≠ d := Ne.symm hd
      simp only [hc, hd, hne, isJoint, beq_self_eq_true, beq_iff_eq, ↓reduceIte, Bool.or_eq_true,
        Bool.and_eq_true, false_or, true_or, true_and]
      exact eq_comm
  · by_cases hd : d = '-'
    · simp [hc, hd, isJoint]
    · simp only [beq_iff_eq, hc, hd, ↓reduceIte, isJoint, Bool.or_eq_true, Bool.and_eq_true,
        false_or]
      constructor
      · exact .inl
      · rintro (h | ⟨rfl, rfl⟩)
        · exact h
        · rfl

theorem alikeChars_iff (cs ds : List Char) :
    alikeChars cs ds ↔ (cs.map fun c => if c == '-' then '_' else c) =
      ds.map fun d => if d == '-' then '_' else d := by
  induction cs generalizing ds with
  | nil => cases ds <;> simp [alikeChars]
  | cons c cs ih =>
    cases ds with
    | nil => simp [alikeChars]
    | cons d ds =>
      rw [alikeChars, Bool.and_eq_true, ih, ← sanitized_char_eq_iff, List.map_cons, List.map_cons,
        List.cons.injEq]

/-- Names that are alike have one identifier, and no others do. -/
theorem alike_iff {s t : String} : alike s t ↔ sanitize s = sanitize t := by
  rw [alike, alikeChars_iff, sanitize, sanitize, String.ofList_inj]

/-- An identifier without underscores has not been changed. -/
theorem eq_of_sanitize_eq {name identifier : String} (hjoint : '_' ∉ identifier.toList)
    (h : sanitize name = identifier) : name = identifier := by
  subst h
  rw [sanitize_eq_self]
  intro hhyphen
  apply hjoint
  rw [toList_sanitize, List.mem_map]
  exact ⟨'-', hhyphen, rfl⟩

/-! ## Import lists -/

/-- The first item of a text that goes on to the next one at each comma with a space behind it, and
the items after the first. -/
def splitItems : List Char → List Char × List (List Char)
  | ',' :: ' ' :: cs => ([], (splitItems cs).1 :: (splitItems cs).2)
  | c :: cs => (c :: (splitItems cs).1, (splitItems cs).2)
  | [] => ([], [])

/-- The items of a text, which is cut at each comma with a space behind it. -/
def items (text : String) : List String :=
  ((splitItems text.toList).1 :: (splitItems text.toList).2).map String.ofList

/-- The identifiers that an import lists; an empty text lists none. -/
def listed (text : String) : List String :=
  if text.toList.isEmpty then [] else items text

theorem splitItems_cons {c : Char} {s : List Char} (h : ∀ t, s ≠ ' ' :: t) :
    splitItems (c :: s) = (c :: (splitItems s).1, (splitItems s).2) := by
  rw [splitItems]
  intro t _ hs
  exact absurd hs (h t)

theorem splitItems_of_not_mem {item : List Char} (h : ' ' ∉ item) :
    splitItems item = (item, []) := by
  induction item with
  | nil => rfl
  | cons c cs ih =>
    rw [List.mem_cons, not_or] at h
    have hhead : ∀ t, cs ≠ ' ' :: t := by
      rintro t rfl
      exact h.2 List.mem_cons_self
    rw [splitItems_cons hhead, ih h.2]

/-- An item ends at the first separator behind it, even if it ends with commas itself. -/
theorem splitItems_append {item : List Char} (h : ' ' ∉ item) (rest : List Char) :
    splitItems (item ++ ',' :: ' ' :: rest) =
      (item, (splitItems rest).1 :: (splitItems rest).2) := by
  induction item with
  | nil => rfl
  | cons c cs ih =>
    rw [List.mem_cons, not_or] at h
    -- what follows a comma of the item is another of its characters or the comma of the separator
    have hhead : ∀ t, cs ++ ',' :: ' ' :: rest ≠ ' ' :: t := by
      intro t ht
      cases cs with
      | nil => simp at ht
      | cons d ds =>
        rw [List.cons_append, List.cons.injEq] at ht
        exact h.2 (ht.1 ▸ List.mem_cons_self)
    rw [List.cons_append, splitItems_cons hhead, ih h.2]

theorem splitItems_joinWith {item : String} {items : List String}
    (h : ∀ s ∈ item :: items, ' ' ∉ s.toList) :
    splitItems (Text.joinWith ", " (item :: items)).toList =
      (item.toList, items.map String.toList) := by
  induction items generalizing item with
  | nil => exact splitItems_of_not_mem (h item List.mem_cons_self)
  | cons next rest ih =>
    rw [List.forall_mem_cons] at h
    have hsplit : (Text.joinWith ", " (item :: next :: rest)).toList =
        item.toList ++ ',' :: ' ' :: (Text.joinWith ", " (next :: rest)).toList := by
      simp [Text.joinWith]
    rw [hsplit, splitItems_append h.1, ih h.2]
    rfl

/-- A name that can stand in an import list without being mistaken for another number of names. -/
def Listable (name : String) : Prop :=
  name.toList ≠ [] ∧ ' ' ∉ name.toList

theorem Listable.sanitize {name : String} (h : Listable name) :
    Listable (Identifier.sanitize name) := by
  unfold Listable
  rw [toList_sanitize]
  refine ⟨by simpa using h.1, fun hmem => ?_⟩
  rcases List.mem_map.mp hmem with ⟨c, hc, hspace⟩
  split at hspace
  · exact absurd hspace (by decide)
  · exact h.2 (hspace ▸ hc)

theorem listable_of_isSimple {name : String} (h : isSimple name) : Listable name := by
  rw [isSimple_iff] at h
  refine ⟨h.1, fun hmem => ?_⟩
  have hspace := h.2 ' ' hmem
  exact absurd hspace (by decide)

theorem items_joinWith {items : List String} (hne : items ≠ []) (h : ∀ s ∈ items, ' ' ∉ s.toList) :
    Identifier.items (Text.joinWith ", " items) = items := by
  cases items with
  | nil => exact absurd rfl hne
  | cons item rest =>
    rw [Identifier.items, splitItems_joinWith h]
    simp

theorem listed_joinWith {items : List String} (h : ∀ s ∈ items, Listable s) :
    listed (Text.joinWith ", " items) = items := by
  cases items with
  | nil => rfl
  | cons item rest =>
    -- an empty text lists nothing, so a single item must not be empty
    have hne : (Text.joinWith ", " (item :: rest)).toList.isEmpty = false := by
      have hitem := (h item List.mem_cons_self).1
      cases rest with
      | nil => simpa [Text.joinWith] using hitem
      | cons next rest => simp [Text.joinWith]
    rw [listed, if_neg (by simp [hne])]
    exact items_joinWith (List.cons_ne_nil item rest) fun s hs => (h s hs).2

theorem listable_of_mem_map_sanitize {names : List String} (h : ∀ name ∈ names, Listable name) :
    ∀ s ∈ names.map sanitize, Listable s := by
  intro s hs
  rcases List.mem_map.mp hs with ⟨name, hname, rfl⟩
  exact (h name hname).sanitize

/-- An import list is read back as the sanitized names. -/
theorem listed_importList {names : List String} (h : ∀ name ∈ names, Listable name) :
    listed (importList names) = names.map sanitize :=
  listed_joinWith (listable_of_mem_map_sanitize h)

theorem importList_eq_empty_iff {names : List String} (h : ∀ name ∈ names, Listable name) :
    importList names = "" ↔ names = [] := by
  constructor
  · intro hempty
    -- an empty text lists nothing
    have hlisted := listed_importList h
    rw [hempty] at hlisted
    exact List.map_eq_nil_iff.mp hlisted.symm
  · rintro rfl
    rfl

theorem items_importList {names : List String} (hne : names ≠ [])
    (h : ∀ name ∈ names, Listable name) : items (importList names) = names.map sanitize := by
  apply items_joinWith
  · simpa using hne
  · exact fun s hs => (listable_of_mem_map_sanitize h s hs).2

theorem mem_toList_joinWith {separator : String} {items : List String} {c : Char}
    (h : c ∈ (Text.joinWith separator items).toList) :
    c ∈ separator.toList ∨ ∃ s ∈ items, c ∈ s.toList := by
  induction items with
  | nil => simp [Text.joinWith] at h
  | cons item rest ih =>
    cases rest with
    | nil => exact .inr ⟨item, List.mem_cons_self, h⟩
    | cons next rest =>
      rw [Text.joinWith, String.toList_append, String.toList_append] at h
      · rcases List.mem_append.mp h with h | h
        · rcases List.mem_append.mp h with h | h
          · exact .inr ⟨item, List.mem_cons_self, h⟩
          · exact .inl h
        · rcases ih h with h | ⟨s, hs, hc⟩
          · exact .inl h
          · exact .inr ⟨s, List.mem_cons_of_mem _ hs, hc⟩
      · simp

theorem brace_not_mem_importList {names : List String} (h : ∀ name ∈ names, isSimple name) :
    '\x7d' ∉ (importList names).toList := by
  intro hmem
  rcases mem_toList_joinWith hmem with hsep | ⟨_, hs, hc⟩
  · exact absurd hsep (by decide)
  · rcases List.mem_map.mp hs with ⟨name, hname, rfl⟩
    rw [toList_sanitize] at hc
    rcases List.mem_map.mp hc with ⟨c, hc, hbrace⟩
    split at hbrace
    · exact absurd hbrace (by decide)
    · have hsimple := (isSimple_iff.mp (h name hname)).2 c hc
      rw [hbrace] at hsimple
      exact absurd hsimple (by decide)

end HtmlComponent.Identifier
