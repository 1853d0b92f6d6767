import Mathlib.Data.List.Nodup
import HtmlComponent.Dom
import HtmlComponent.Proofs.Component.Handlers
import HtmlComponent.Proofs.Component.Readable

/-!
# The keys of an object of attributes

In code a key is an identifier or a string. An attribute without a hyphen has its name for a key as
it is, one with a hyphen has its name quoted, and a class has the key `c`. So attributes whose names
are letters and hyphens are fields of their own, unless there is one named `c` beside a class. A
qualified name has a colon, and then it is a key only if a hyphen gets it quoted. As texts the keys of
any two names differ.
-/

namespace HtmlComponent.Component.Body

/-! ## Reading an object -/

/-- The ASCII characters of identifiers. -/
def isIdentifierChar (c : Char) : Bool :=
  c.isAlphanum || c == '_' || c == '$'

def isIdentifier (name : String) : Bool :=
  name.toList.head?.any (fun c => !c.isDigit) && name.toList.all isIdentifierChar

/-- Reads the longest identifier. -/
def readIdentifier (s : List Char) : Option (String × List Char) :=
  if isIdentifier (String.ofList (s.takeWhile isIdentifierChar)) then
    some (String.ofList (s.takeWhile isIdentifierChar), s.dropWhile isIdentifierChar)
  else none

/-- Reads a key: the property that it names, and what follows it. -/
def readProperty (s : List Char) : Option (String × List Char) :=
  if s.head? == some '"' then Text.readString s else readIdentifier s

/-- The property that a text names as a key. -/
def property? (key : String) : Option String :=
  match readProperty key.toList with
  | some (name, []) => some name
  | _ => none

inductive PropertyValue where
  | literal (text : String)
  | list (identifiers : List String)

def readValue (s : List Char) : Option (PropertyValue × List Char) :=
  match s with
  | '[' :: s => (readEnclosed readIdentifier ']' s).map fun read => (.list read.1, read.2)
  | s => (readText s).map fun read => (.literal read.1, read.2)

def readEntry (s : List Char) : Option ((String × PropertyValue) × List Char) :=
  match readProperty s with
  | some (name, ':' :: ' ' :: s) => (readValue s).map fun read => ((name, read.1), read.2)
  | _ => none

/-- Reads an object and nothing behind it: its properties in their order. Without an object there
are none. -/
def readObject (text : String) : Option (List (String × PropertyValue)) :=
  match text.toList with
  | [] => some []
  | '\x7b' :: s =>
    match readEnclosed readEntry '\x7d' s with
    | some (properties, []) => some properties
    | _ => none
  | _ => none

/-! ## Identifiers -/

theorem all_isIdentifierChar {name : String} (h : isIdentifier name) :
    ∀ c ∈ name.toList, isIdentifierChar c := by
  rw [isIdentifier, Bool.and_eq_true, List.all_eq_true] at h
  exact h.2

theorem exists_head_of_isIdentifier {name : String} (h : isIdentifier name) :
    ∃ c cs, name.toList = c :: cs ∧ isIdentifierChar c := by
  have hall := all_isIdentifierChar h
  cases hname : name.toList with
  | nil => simp [isIdentifier, hname] at h
  | cons c cs =>
    rw [hname] at hall
    exact ⟨c, cs, rfl, hall c List.mem_cons_self⟩

/-- The text does not go on with a character of identifiers. -/
def EndsIdentifier (s : List Char) : Prop :=
  ∀ c ∈ s.head?, isIdentifierChar c = false

theorem endsIdentifier_cons {c : Char} (h : isIdentifierChar c = false) (s : List Char) :
    EndsIdentifier (c :: s) := by
  intro d hd
  cases hd
  exact h

theorem reads_identifier {name : String} (h : isIdentifier name) :
    Reads EndsIdentifier readIdentifier name name := by
  intro rest hrest
  have hall := all_isIdentifierChar h
  unfold readIdentifier
  rw [Text.takeWhile_run hall hrest, Text.dropWhile_run hall hrest, String.ofList_toList, if_pos h]

theorem reads_quotedProperty (name : String) :
    Reads (fun _ => True) readProperty (Text.jsonString name) name := by
  intro rest _
  have hquote : ((Text.jsonString name).toList ++ rest).head? = some '"' := by
    simp [Text.jsonString]
  rw [readProperty, hquote, if_pos (beq_self_eq_true _), Text.readString_jsonString]

theorem readProperty_identifier {name : String} (h : isIdentifier name) (rest : List Char) :
    readProperty (name.toList ++ rest) = readIdentifier (name.toList ++ rest) := by
  rcases exists_head_of_isIdentifier h with ⟨c, cs, hname, hc⟩
  have hquote : c ≠ '"' := by
    rintro rfl
    cases hc
  rw [readProperty, if_neg]
  simpa [hname] using hquote

theorem reads_bareProperty {name : String} (h : isIdentifier name) :
    Reads EndsIdentifier readProperty name name := by
  intro rest hrest
  rw [readProperty_identifier h, reads_identifier h rest hrest]

theorem property?_of_reads {key name : String} (h : Reads EndsIdentifier readProperty key name) :
    property? key = some name := by
  have hread := h [] fun c hc => absurd hc (by simp)
  rw [List.append_nil] at hread
  rw [property?, hread]

/-! ## Keys as texts -/

theorem key_of_hyphen {name : String} (h : '-' ∈ name.toList) : key name = Text.jsonString name :=
  if_pos (List.contains_iff_mem.mpr h)

theorem key_of_not_hyphen {name : String} (h : '-' ∉ name.toList) : key name = name :=
  if_neg fun hcontains => h (List.contains_iff_mem.mp hcontains)

/-- A hyphen tells whether a key is quoted, since quoting leaves hyphens as they are. -/
theorem hyphen_mem_key_iff {name : String} : '-' ∈ (key name).toList ↔ '-' ∈ name.toList := by
  by_cases h : '-' ∈ name.toList
  · have hinner : '-' ∈ Text.jsonInner name.toList :=
      List.mem_flatMap.mpr ⟨'-', h, by decide⟩
    rw [key_of_hyphen h, Text.jsonString, String.toList_ofList]
    simp [h, hinner]
  · rw [key_of_not_hyphen h]

theorem readString_key {name : String} (h : '-' ∈ name.toList) (rest : List Char) :
    Text.readString ((key name).toList ++ rest) = some (name, rest) := by
  rw [key_of_hyphen h, Text.readString_jsonString]

theorem key_injective : Function.Injective key := by
  intro name name' h
  have hhyphen : '-' ∈ name.toList ↔ '-' ∈ name'.toList := by
    rw [← hyphen_mem_key_iff, h, hyphen_mem_key_iff]
  by_cases hname : '-' ∈ name.toList
  · -- both keys are quoted, and a reader gets one name from them
    have hread := readString_key hname []
    rw [h, readString_key (hhyphen.mp hname)] at hread
    cases hread
    rfl
  · have hname' : '-' ∉ name'.toList := fun hmem => hname (hhyphen.mpr hmem)
    rwa [key_of_not_hyphen hname, key_of_not_hyphen hname'] at h

/-- Different attributes have different keys, whatever their names hold. A key that a hyphen gets
quoted ends where its string does: what follows it is still ahead once the name is read. -/
theorem keys_faithful :
    Function.Injective key ∧
    ∀ name rest : String, '-' ∈ name.toList →
      Text.readString (key name ++ rest).toList = some (name, rest.toList) := by
  refine ⟨key_injective, fun name rest h => ?_⟩
  rw [String.toList_append, readString_key h]

/-- A name that looks like the rest of a quoted key, before a text that goes on as one. -/
theorem quotedName_key_read_back :
    '-' ∈ "a-\"\\\x1f".toList ∧ key "a-\"\\\x1f" = "\"a-\\\"\\\\\\u001f\"" ∧
    Text.readString (key "a-\"\\\x1f" ++ "\": -\"").toList =
      some ("a-\"\\\x1f", "\": -\"".toList) := by
  have hhyphen : '-' ∈ "a-\"\\\x1f".toList := by decide
  exact ⟨hhyphen, by decide, keys_faithful.2 _ _ hhyphen⟩

/-! ## Names of letters and hyphens -/

/-- A name that starts with a letter and has no characters but letters and hyphens, all of them
ASCII. -/
def isLetterName (name : String) : Bool :=
  name.toList.head?.any Char.isAlpha && name.toList.all fun c => c.isAlpha || c == '-'

theorem isIdentifierChar_of_isAlpha {c : Char} (h : c.isAlpha) :
    c.isDigit = false ∧ isIdentifierChar c := by
  -- letters are among the simple characters, for which there is a table
  have hsimple : Identifier.isSimpleChar c := by
    simp [Identifier.isSimpleChar, Char.isAlphanum, h]
  have htable := Identifier.forall_isSimpleChar
    (p := fun c => !c.isAlpha || (!c.isDigit && isIdentifierChar c)) (by decide) hsimple
  simpa [h] using htable

theorem isIdentifier_of_isLetterName {name : String} (h : isLetterName name)
    (hhyphen : '-' ∉ name.toList) : isIdentifier name := by
  rw [isLetterName, Bool.and_eq_true, List.all_eq_true] at h
  have hletters : ∀ c ∈ name.toList, c.isAlpha := by
    intro c hc
    have hne : c ≠ '-' := fun heq => hhyphen (heq ▸ hc)
    simpa [hne] using h.2 c hc
  rw [isIdentifier, Bool.and_eq_true, List.all_eq_true]
  refine ⟨?_, fun c hc => (isIdentifierChar_of_isAlpha (hletters c hc)).2⟩
  cases hname : name.toList with
  | nil => simp [hname] at h
  | cons c cs =>
    rw [hname, List.forall_mem_cons] at hletters
    have hc := (isIdentifierChar_of_isAlpha hletters.1).1
    simpa using hc

theorem reads_property_key {name : String} (h : '-' ∈ name.toList ∨ isIdentifier name) :
    Reads EndsIdentifier readProperty (key name) name := by
  by_cases hhyphen : '-' ∈ name.toList
  · rw [key_of_hyphen hhyphen]
    exact fun rest _ => reads_quotedProperty name rest trivial
  · rw [key_of_not_hyphen hhyphen]
    exact reads_bareProperty (h.resolve_left hhyphen)

theorem reads_key_of_isLetterName {name : String} (h : isLetterName name) :
    Reads EndsIdentifier readProperty (key name) name := by
  apply reads_property_key
  by_cases hhyphen : '-' ∈ name.toList
  · exact .inl hhyphen
  · exact .inr (isIdentifier_of_isLetterName h hhyphen)

/-! ## Fields -/

/-- The key that the field of an attribute has. -/
def fieldKey (name : String) : String :=
  if name = "class" then "c" else key name

/-- The property that an attribute becomes. -/
def propertyOf (name : String) : String :=
  if name = "class" then "c" else name

def valueText (name value : String) : String :=
  if name = "class" then "[" ++ Identifier.importList (Text.words value) ++ "]"
  else Text.templateLiteral value

def PropertyValue.ofEntry (name value : String) : PropertyValue :=
  if name = "class" then .list ((Text.words value).map Identifier.sanitize) else .literal value

theorem field_eq_fieldKey (name value : String) :
    field name value = fieldKey name ++ ": " ++ valueText name value := by
  unfold field fieldKey valueText
  split
  · rw [← String.toList_inj]
    simp
  · rfl

theorem attributes_eq_joinWith (as : Attributes) :
    attributes as =
      if as.isEmpty then ""
      else "\x7b" ++ Text.joinWith ", "
        (as.shown.entries.map fun e => fieldKey e.1 ++ ": " ++ valueText e.1 e.2) ++ "\x7d" := by
  simp only [← field_eq_fieldKey]
  rfl

theorem reads_fieldKey {name : String} (h : isLetterName name) :
    Reads EndsIdentifier readProperty (fieldKey name) (propertyOf name) := by
  unfold fieldKey propertyOf
  split
  · exact reads_bareProperty (by decide)
  · exact reads_key_of_isLetterName h

/-- The words of a class are identifiers once they are sanitized. -/
def HasIdentifiers (value : String) : Prop :=
  ∀ word ∈ Text.words value, isIdentifier (Identifier.sanitize word)

theorem readEnclosed_importList {value : String} (h : HasIdentifiers value) (rest : List Char) :
    readEnclosed readIdentifier ']'
        ((Identifier.importList (Text.words value)).toList ++ ']' :: rest) =
      some ((Text.words value).map Identifier.sanitize, rest) := by
  apply readEnclosed_joinWith (fun s => endsIdentifier_cons (by decide) _)
    (fun s => endsIdentifier_cons (by decide) s) (by decide)
  · intro word hword
    exact reads_identifier (h word hword)
  · intro word hword
    rcases exists_head_of_isIdentifier (h word hword) with ⟨c, cs, hcs, hc⟩
    rw [hcs]
    refine ⟨List.cons_ne_nil c cs, ?_⟩
    -- a bracket is no character of identifiers
    intro hhead
    cases hhead
    cases hc

theorem reads_valueText {name value : String} (h : name = "class" → HasIdentifiers value) :
    Reads (fun _ => True) readValue (valueText name value) (.ofEntry name value) := by
  intro rest _
  unfold valueText PropertyValue.ofEntry
  by_cases hclass : name = "class"
  · have hsplit : ("[" ++ Identifier.importList (Text.words value) ++ "]").toList ++ rest =
        '[' :: ((Identifier.importList (Text.words value)).toList ++ ']' :: rest) := by
      simp
    rw [if_pos hclass, if_pos hclass, hsplit, readValue, readEnclosed_importList (h hclass)]
    rfl
  · rw [if_neg hclass, if_neg hclass, readValue, reads_text value rest trivial]
    · rfl
    · -- a literal has another mark in front
      intro s hs
      rw [Text.toList_templateLiteral] at hs
      cases hs

theorem reads_entry {e : String × String} (hname : isLetterName e.1)
    (hclass : e.1 = "class" → HasIdentifiers e.2) :
    Reads (fun _ => True) readEntry (fieldKey e.1 ++ ": " ++ valueText e.1 e.2)
      (propertyOf e.1, .ofEntry e.1 e.2) := by
  intro rest _
  have hsplit : (fieldKey e.1 ++ ": " ++ valueText e.1 e.2).toList ++ rest =
      (fieldKey e.1).toList ++ (':' :: ' ' :: ((valueText e.1 e.2).toList ++ rest)) := by
    simp
  rw [hsplit, readEntry, reads_fieldKey hname _ (endsIdentifier_cons (by decide) _)]
  simp only [reads_valueText hclass rest trivial, Option.map_some]

/-- No field is taken for the end of the object. -/
theorem head?_of_reads_entry {text : String} {property : String × PropertyValue}
    (h : Reads (fun _ => True) readEntry text property) :
    text.toList ≠ [] ∧ text.toList.head? ≠ some '\x7d' := by
  have hread := h [] trivial
  rw [List.append_nil] at hread
  constructor
  · intro hnil
    rw [hnil] at hread
    cases hread
  · intro hhead
    rcases List.head?_eq_some_iff.mp hhead with ⟨s, hs⟩
    rw [hs] at hread
    cases hread

theorem readObject_enclosed {inner : String} {properties : List (String × PropertyValue)}
    (h : readEnclosed readEntry '\x7d' (inner.toList ++ ['\x7d']) = some (properties, [])) :
    readObject ("\x7b" ++ inner ++ "\x7d") = some properties := by
  have hsplit : ("\x7b" ++ inner ++ "\x7d").toList = '\x7b' :: (inner.toList ++ ['\x7d']) := by
    simp
  rw [readObject, hsplit]
  simp only [h]

/-- An object of attributes has a property for each attribute that is shown, in their order. -/
theorem readObject_attributes {as : Attributes} (hnames : ∀ name ∈ as.names, isLetterName name)
    (hclass : ∀ value, as.get? "class" = some value → HasIdentifiers value) :
    readObject (attributes as) =
      some (as.shown.entries.map fun e => (propertyOf e.1, .ofEntry e.1 e.2)) := by
  have hreads : ∀ e ∈ as.shown.entries, Reads (fun _ => True) readEntry
      (fieldKey e.1 ++ ": " ++ valueText e.1 e.2) (propertyOf e.1, .ofEntry e.1 e.2) := by
    intro e he
    have hmem : e ∈ as.entries := (List.mem_filter.mp he).1
    apply reads_entry (hnames e.1 (List.mem_map_of_mem hmem))
    intro heq
    apply hclass
    rw [← heq]
    exact Attributes.get?_of_mem_entries hmem
  rw [attributes_eq_joinWith]
  by_cases hempty : as.isEmpty = true
  · have hnil : as.shown.entries = [] := by
      rw [Attributes.isEmpty, List.isEmpty_iff] at hempty
      change as.entries.filter _ = []
      rw [hempty]
      rfl
    rw [if_pos hempty, hnil]
    rfl
  · rw [if_neg hempty]
    apply readObject_enclosed
    exact readEnclosed_joinWith (fun _ => trivial) (fun _ => trivial) (by decide) [] hreads
      (fun e he => head?_of_reads_entry (hreads e he))

/-! ## Keys of their own -/

theorem mem_shown_names {as : Attributes} {name : String} (h : isHandler name = false) :
    name ∈ as.shown.names ↔ name ∈ as.names := by
  constructor
  · intro hmem
    rcases List.mem_map.mp hmem with ⟨e, he, rfl⟩
    exact List.mem_map_of_mem (List.mem_filter.mp he).1
  · intro hmem
    rcases List.mem_map.mp hmem with ⟨e, he, rfl⟩
    exact List.mem_map_of_mem (List.mem_filter.mpr ⟨he, by simp [h]⟩)

/-- Only a class changes its name, so only an attribute named like its key can meet it. -/
theorem eq_of_propertyOf_eq {m n : String} (h : propertyOf m = propertyOf n) :
    m = n ∨ (m = "c" ∧ n = "class") ∨ (m = "class" ∧ n = "c") := by
  unfold propertyOf at h
  by_cases hm : m = "class"
  · by_cases hn : n = "class"
    · exact .inl (hm.trans hn.symm)
    · rw [if_pos hm, if_neg hn] at h
      exact .inr (.inr ⟨hm, h.symm⟩)
  · rw [if_neg hm] at h
    by_cases hn : n = "class"
    · rw [if_pos hn] at h
      exact .inr (.inl ⟨h, hn⟩)
    · rw [if_neg hn] at h
      exact .inl h

theorem nodup_properties_iff (as : Attributes) :
    (as.shown.names.map propertyOf).Nodup ↔ ¬ ("c" ∈ as.names ∧ "class" ∈ as.names) := by
  have hc : "c" ∈ as.shown.names ↔ "c" ∈ as.names := mem_shown_names (by decide)
  have hclass : "class" ∈ as.shown.names ↔ "class" ∈ as.names := mem_shown_names (by decide)
  have hnodup : as.shown.names.Nodup := as.shown.nodup
  rw [← hc, ← hclass, List.nodup_map_iff_inj_on hnodup]
  constructor
  · rintro hinj ⟨hc, hclass⟩
    exact absurd (hinj "c" hc "class" hclass (by decide)) (by decide)
  · intro hnot m hm n hn heq
    rcases eq_of_propertyOf_eq heq with h | ⟨rfl, rfl⟩ | ⟨rfl, rfl⟩
    · exact h
    · exact absurd ⟨hm, hn⟩ hnot
    · exact absurd ⟨hn, hm⟩ hnot

/-- Attributes whose names are letters and hyphens become a field each, with a key for the name, or
`c` for a class. The keys are different exactly if no attribute named `c` stands beside a class. If
the words of the class are identifiers, then these fields are what is read. -/
theorem attributes_properties {as : Attributes} (hnames : ∀ name ∈ as.names, isLetterName name) :
    (attributes as =
      if as.isEmpty then ""
      else "\x7b" ++ Text.joinWith ", "
        (as.shown.entries.map fun e => fieldKey e.1 ++ ": " ++ valueText e.1 e.2) ++ "\x7d") ∧
    (∀ name ∈ as.names, property? (fieldKey name) = some (propertyOf name)) ∧
    ((as.shown.names.map propertyOf).Nodup ↔ ¬ ("c" ∈ as.names ∧ "class" ∈ as.names)) ∧
    ((∀ value, as.get? "class" = some value → HasIdentifiers value) →
      readObject (attributes as) =
        some (as.shown.entries.map fun e => (propertyOf e.1, .ofEntry e.1 e.2))) := by
  refine ⟨attributes_eq_joinWith as, ?_, nodup_properties_iff as, readObject_attributes hnames⟩
  intro name hname
  exact property?_of_reads (reads_fieldKey (hnames name hname))

/-- Attributes with every kind of name: bare, quoted, a class and a handler. -/
def mixedAttributes : Attributes :=
  .ofPairs [("id", "main"), ("data-role", "x\x60y"), ("onclick", "f()"),
    ("class", "btn btn-primary")]

theorem mixedAttributes_properties :
    (∀ name ∈ mixedAttributes.names, isLetterName name) ∧
    (mixedAttributes.shown.names.map propertyOf).Nodup ∧
    readObject (attributes mixedAttributes) =
      some [("id", .literal "main"), ("data-role", .literal "x\x60y"),
        ("c", .list ["btn", "btn_primary"])] := by
  have hnames : ∀ name ∈ mixedAttributes.names, isLetterName name := by decide
  rcases attributes_properties hnames with ⟨-, -, hnodup, hread⟩
  refine ⟨hnames, hnodup.mpr (by decide), hread ?_⟩
  intro value hvalue
  cases hvalue
  unfold HasIdentifiers
  decide

/-- An attribute that has the key of a class for its name, beside a class. -/
def doubleAttributes : Attributes :=
  .ofPairs [("c", "x"), ("class", "a")]

theorem doubleAttributes_properties_not_nodup :
    (∀ name ∈ doubleAttributes.names, isLetterName name) ∧
    attributes doubleAttributes = "\x7bc: \x60x\x60, c: [a]\x7d" ∧
    readObject (attributes doubleAttributes) = some [("c", .literal "x"), ("c", .list ["a"])] ∧
    ¬ (doubleAttributes.shown.names.map propertyOf).Nodup := by
  have hnames : ∀ name ∈ doubleAttributes.names, isLetterName name := by decide
  refine ⟨hnames, by decide, readObject_attributes hnames ?_, by decide⟩
  intro value hvalue
  cases hvalue
  unfold HasIdentifiers
  decide

/-! ## Qualified names -/

/-- Without a hyphen there are no quotes, and an identifier ends at the colon. -/
theorem property?_qualified {qualifier name : String} (h : isIdentifier qualifier) :
    property? (qualifier ++ ":" ++ name) = none := by
  have hsplit : (qualifier ++ ":" ++ name).toList = qualifier.toList ++ ':' :: name.toList := by
    simp
  rw [property?, hsplit, reads_bareProperty h _ (endsIdentifier_cons (by decide) _)]

/-- An attribute of an element that is neither a class nor a handler has a field, under its key. -/
theorem exists_field_of_mem {as : List DomAttribute} {a : DomAttribute} (ha : a ∈ as)
    (hclass : a.name ≠ "class") (hhandler : isHandler a.name = false) :
    ∃ value before after, (collectAttributes as).get? a.name = some value ∧
      attributes (collectAttributes as) =
        "\x7b" ++ Text.joinWith ", "
          (before ++ (key a.name ++ ": " ++ Text.templateLiteral value) :: after) ++ "\x7d" := by
  have hname : a.name ∈ (collectAttributes as).names := by
    rw [collectAttributes, Attributes.mem_names_ofFirstPairs, List.map_map]
    exact List.mem_map_of_mem ha
  rcases List.mem_map.mp ((mem_shown_names hhandler).mpr hname) with ⟨⟨name, value⟩, he, heq⟩
  change name = a.name at heq
  subst heq
  have hmem : (a.name, value) ∈ (collectAttributes as).entries := (List.mem_filter.mp he).1
  have hempty : (collectAttributes as).isEmpty = false := by
    rw [Attributes.isEmpty, List.isEmpty_eq_false_iff]
    exact List.ne_nil_of_mem hmem
  have hfield : key a.name ++ ": " ++ Text.templateLiteral value ∈
      fields (collectAttributes as).entries := by
    refine List.mem_map.mpr ⟨(a.name, value), he, ?_⟩
    rw [field, if_neg hclass]
  rcases List.append_of_mem hfield with ⟨before, after, hsplit⟩
  refine ⟨value, before, after, Attributes.get?_of_mem_entries hmem, ?_⟩
  rw [attributes, hempty, if_neg Bool.false_ne_true, hsplit]

theorem property?_key_name {a : DomAttribute} (hlocal : isLetterName a.localName)
    (hqualifier : ∀ qualifier ∈ a.qualifier, isLetterName qualifier) :
    property? (key a.name) =
      if a.qualifier = none ∨ '-' ∈ a.name.toList then some a.name else none := by
  by_cases hhyphen : '-' ∈ a.name.toList
  · rw [if_pos (.inr hhyphen)]
    exact property?_of_reads (reads_property_key (.inl hhyphen))
  · cases hcase : a.qualifier with
    | none =>
      have hname : a.name = a.localName := by simp [DomAttribute.name, hcase]
      rw [if_pos (.inl rfl), hname]
      exact property?_of_reads (reads_key_of_isLetterName hlocal)
    | some qualifier =>
      have hname : a.name = qualifier ++ ":" ++ a.localName := by simp [DomAttribute.name, hcase]
      have hbare : '-' ∉ qualifier.toList := by
        intro hmem
        apply hhyphen
        rw [hname]
        simp [hmem]
      have hidentifier := isIdentifier_of_isLetterName (hqualifier qualifier hcase) hbare
      rw [if_neg (by simp [hhyphen]), key_of_not_hyphen hhyphen, hname]
      exact property?_qualified hidentifier

/-- The key of a qualified attribute names it exactly if a hyphen gets it quoted, and is no key
otherwise. That of an unqualified attribute always names it. -/
theorem key_names_attribute_iff {as : List DomAttribute} {a : DomAttribute} (ha : a ∈ as)
    (hclass : a.name ≠ "class") (hhandler : isHandler a.name = false)
    (hlocal : isLetterName a.localName)
    (hqualifier : ∀ qualifier ∈ a.qualifier, isLetterName qualifier) :
    (∃ value before after, (collectAttributes as).get? a.name = some value ∧
      attributes (collectAttributes as) =
        "\x7b" ++ Text.joinWith ", "
          (before ++ (key a.name ++ ": " ++ Text.templateLiteral value) :: after) ++ "\x7d") ∧
    (property? (key a.name) = some a.name ↔ a.qualifier = none ∨ '-' ∈ a.name.toList) ∧
    (property? (key a.name) = none ↔ ¬ (a.qualifier = none ∨ '-' ∈ a.name.toList)) := by
  refine ⟨exists_field_of_mem ha hclass hhandler, ?_⟩
  rw [property?_key_name hlocal hqualifier]
  by_cases h : a.qualifier = none ∨ '-' ∈ a.name.toList
  · simp only [h, ↓reduceIte, not_true_eq_false, and_self, reduceCtorEq]
  · simp only [h, ↓reduceIte, not_false_eq_true, and_self, reduceCtorEq]

/-- A qualified attribute with a hyphen. -/
def quotedAttribute : DomAttribute :=
  ⟨some "xml", "base-uri", "a"⟩

theorem quotedAttribute_key_names :
    ∃ value before after, (collectAttributes [quotedAttribute, ⟨none, "id", "b"⟩]).get?
        quotedAttribute.name = some value ∧
      attributes (collectAttributes [quotedAttribute, ⟨none, "id", "b"⟩]) =
        "\x7b" ++ Text.joinWith ", "
          (before ++ ("\"xml:base-uri\"" ++ ": " ++ Text.templateLiteral value) :: after) ++
          "\x7d" ∧
      property? "\"xml:base-uri\"" = some "xml:base-uri" := by
  have hmem : quotedAttribute ∈ [quotedAttribute, ⟨none, "id", "b"⟩] := List.mem_cons_self
  have hqualifier : ∀ qualifier ∈ quotedAttribute.qualifier, isLetterName qualifier := by
    intro qualifier hq
    cases hq
    decide
  rcases key_names_attribute_iff hmem (by decide) (by decide) (by decide) hqualifier with
    ⟨⟨value, before, after, hvalue, htext⟩, hnames, -⟩
  exact ⟨value, before, after, hvalue, htext, hnames.mpr (.inr (by decide))⟩

/-- The key of a qualified attribute without a hyphen is no key. -/
theorem linkAttribute_key_names_nothing :
    attributes (collectAttributes [⟨some "xlink", "href", "#a"⟩]) =
      "\x7bxlink:href: \x60#a\x60\x7d" ∧
    property? (key "xlink:href") = none ∧ readObject "\x7bxlink:href: \x60#a\x60\x7d" = none := by
  refine ⟨by decide, ?_, by decide⟩
  exact property?_key_name (a := ⟨some "xlink", "href", "#a"⟩) (by decide) (by simp; decide)

end HtmlComponent.Component.Body
