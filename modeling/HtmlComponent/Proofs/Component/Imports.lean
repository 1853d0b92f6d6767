import HtmlComponent.Proofs.Component.Module
import HtmlComponent.Proofs.Component.Pieces

/-!
# What a module imports and what its body uses

The identifiers of a body are imported, all of them and no others. The names of its calls are not
always: an import has underscores in place of hyphens, and a call keeps the hyphens of its tag.
-/

namespace HtmlComponent

open Component.Body Component.Body.Piece

/-! ## Names that are imported -/

namespace Document

theorem isWord_of_mem_classTokens {n : Node} {token : String} (h : token ∈ n.classTokens) :
    Text.IsWord token.toList := by
  rw [Node.classTokens_eq_flatMap] at h
  rcases List.mem_flatMap.mp h with ⟨⟨name, as⟩, -, htoken⟩
  unfold Builder.classTokens at htoken
  split at htoken
  · exact absurd htoken List.not_mem_nil
  · exact Text.isWord_of_mem_words htoken

/-- The words of classes can be told apart in an import list, whatever they hold. -/
theorem listable_of_mem_classTokens {n : Node} {token : String} (h : token ∈ n.classTokens) :
    Identifier.Listable token :=
  ⟨(isWord_of_mem_classTokens h).1, (isWord_of_mem_classTokens h).space_not_mem⟩

theorem listable_of_mem_styles {events : List Event} {d : Document} (h : ofEvents events = .ok d)
    {name : String} (hname : name ∈ d.styles.names) : Identifier.Listable name := by
  rw [styles_ofEvents h, List.mem_eraseDups] at hname
  exact listable_of_mem_classTokens hname

/-- The identifiers that are imported for styles. -/
theorem listed_styles {events : List Event} {d : Document} (h : ofEvents events = .ok d) :
    Identifier.listed (Identifier.importList d.styles.names) =
      d.root.classTokens.eraseDups.map Identifier.sanitize := by
  rw [← styles_ofEvents h]
  exact Identifier.listed_importList fun name hname => listable_of_mem_styles h hname

/-- Names of tags that are simple in the events are simple in the document. -/
theorem isSimple_of_mem_elements {events : List Event} {d : Document}
    (hnames : ∀ name as, .openTag name as ∈ events → Identifier.isSimple name)
    (h : ofEvents events = .ok d) {name : String} (hname : name ∈ d.elements.names) :
    Identifier.isSimple name := by
  rw [elements_ofEvents h, List.mem_eraseDups] at hname
  rcases List.mem_append.mp hname with hseeded | htag
  · have hall : ∀ seeded ∈ Builder.seededElements, Identifier.isSimple seeded := by decide
    exact hall name hseeded
  · rcases exists_openTag_of_mem_tagNames h htag with ⟨given, as, hopen, rfl⟩
    exact Identifier.isSimple_lower (hnames given as hopen)

theorem mem_elements_of_mem_tagNames {events : List Event} {d : Document}
    (h : ofEvents events = .ok d) {name : String} (hname : name ∈ d.root.tagNames) :
    name ∈ d.elements.names := by
  rw [elements_ofEvents h, List.mem_eraseDups]
  exact List.mem_append_right _ hname

end Document

namespace Component

/-! ## Calls -/

/-- The identifiers that a module of simple names imports for its calls. -/
theorem domImports?_of_isSimple {events : List Event} {d : Document}
    (hnames : ∀ name as, .openTag name as ∈ events → Identifier.isSimple name)
    (h : Document.ofEvents events = .ok d) (options : Options) :
    ∃ text, compile d options = .ok text ∧
      domImports? text = some (d.elements.names.map Identifier.sanitize) := by
  have hsimple : ∀ name ∈ d.elements.names, Identifier.isSimple name :=
    fun _ hname => Document.isSimple_of_mem_elements hnames h hname
  rcases exists_compile_eq_moduleText options with ⟨constant, hcompile⟩
  refine ⟨_, hcompile d, ?_⟩
  rw [domImports?_moduleText, Identifier.listed_importList]
  · exact fun name hname => Identifier.listable_of_isSimple (hsimple name hname)
  · exact Identifier.brace_not_mem_importList hsimple

/-- The calls of a body have the names of the tags. What is imported for such a name is its
sanitized form, and so the name itself is imported exactly if it has no hyphen. -/
theorem callee_imported_iff {events : List Event} {d : Document}
    (hnames : ∀ name as, .openTag name as ∈ events → Identifier.isSimple name)
    (h : Document.ofEvents events = .ok d) (options : Options) :
    textOf (pieces 0 d.root) = ofRoot d.root ∧
    (pieces 0 d.root).flatMap callees = d.root.tagNames ∧
    ∃ text imported, compile d options = .ok text ∧ domImports? text = some imported ∧
      ∀ callee ∈ (pieces 0 d.root).flatMap callees,
        Identifier.sanitize callee ∈ imported ∧ (callee ∈ imported ↔ '-' ∉ callee.toList) := by
  have hcallees := callees_pieces 0 d.root
  rcases domImports?_of_isSimple hnames h options with ⟨text, hcompile, himports⟩
  refine ⟨textOf_pieces 0 d.root, hcallees, text, _, hcompile, himports, ?_⟩
  rw [hcallees]
  intro callee hcallee
  have hmem : Identifier.sanitize callee ∈ d.elements.names.map Identifier.sanitize :=
    List.mem_map_of_mem (Document.mem_elements_of_mem_tagNames h hcallee)
  refine ⟨hmem, fun himported => ?_, fun hhyphen => ?_⟩
  · -- whatever is imported has been sanitized
    rcases List.mem_map.mp himported with ⟨name, -, rfl⟩
    exact Identifier.hyphen_not_mem_sanitize name
  · rwa [Identifier.sanitize_eq_self hhyphen] at hmem

/-- A tag with a hyphen inside one without. -/
def hyphenatedEvents : List Event :=
  [.openTag "DIV" .empty, .openTag "my-Widget" .empty, .closeTag]

theorem isSimple_hyphenatedEvents :
    ∀ name as, .openTag name as ∈ hyphenatedEvents → Identifier.isSimple name := by
  intro name as hopen
  simp only [hyphenatedEvents, List.mem_cons, Event.openTag.injEq, reduceCtorEq, List.not_mem_nil,
    or_false] at hopen
  rcases hopen with ⟨rfl, -⟩ | ⟨rfl, -⟩ <;> decide

theorem hyphenatedEvents_callee_imported_iff :
    ∃ d, Document.ofEvents hyphenatedEvents = .ok d ∧
      (pieces 0 d.root).flatMap callees = ["div", "my-widget"] ∧
      ∃ text imported, compile d {} = .ok text ∧ domImports? text = some imported ∧
        ∀ callee ∈ (pieces 0 d.root).flatMap callees,
          Identifier.sanitize callee ∈ imported ∧ (callee ∈ imported ↔ '-' ∉ callee.toList) := by
  refine ⟨_, rfl, by decide +kernel, ?_⟩
  exact (callee_imported_iff isSimple_hyphenatedEvents rfl {}).2.2

/-- The call of a tag with a hyphen is not imported, though its name is simple. -/
theorem hyphenated_callee_not_imported :
    (∀ name as, .openTag name as ∈ hyphenatedEvents → Identifier.isSimple name) ∧
    ∃ d text imported, Document.ofEvents hyphenatedEvents = .ok d ∧
      textOf (pieces 0 d.root) = ofRoot d.root ∧
      "my-widget" ∈ (pieces 0 d.root).flatMap callees ∧
      compile d {} = .ok text ∧ domImports? text = some imported ∧
      "my-widget" ∉ imported ∧ imported = ["cpt", "shadow", "div", "my_widget"] := by
  rcases domImports?_of_isSimple isSimple_hyphenatedEvents rfl {} with ⟨text, hcompile, himports⟩
  refine ⟨isSimple_hyphenatedEvents, _, text, _, rfl, textOf_pieces _ _, ?_, hcompile, himports,
    ?_, ?_⟩
  all_goals decide +kernel

/-! ## Styles -/

/-- The identifiers that a body uses, from left to right, are the imported ones in their order, once
repetitions are left out on both sides. -/
theorem identifiers_eraseDups_eq {events : List Event} {d : Document}
    (h : Document.ofEvents events = .ok d) :
    textOf (pieces 0 d.root) = ofRoot d.root ∧
    ((pieces 0 d.root).flatMap identifiers).eraseDups =
      (Identifier.listed (Identifier.importList d.styles.names)).eraseDups := by
  refine ⟨textOf_pieces 0 d.root, ?_⟩
  rw [identifiers_pieces, Document.listed_styles h, NameSet.eraseDups_map_eraseDups]

/-- Two class names with one identifier, and one that holds a bracket. -/
def styledEvents : List Event :=
  [.openTag "div" (.ofPairs [("onclick", "f()"), ("class", "a-b c]")]),
    .openTag "p" (.ofPairs [("class", "\ta_b  a-b")]), .text "t"]

theorem styledEvents_identifiers_eraseDups_eq :
    ∃ d, Document.ofEvents styledEvents = .ok d ∧
      (pieces 0 d.root).flatMap identifiers = ["a_b", "c]", "a_b", "a_b"] ∧
      Identifier.listed (Identifier.importList d.styles.names) = ["a_b", "c]", "a_b"] ∧
      textOf (pieces 0 d.root) = ofRoot d.root ∧
      ((pieces 0 d.root).flatMap identifiers).eraseDups =
        (Identifier.listed (Identifier.importList d.styles.names)).eraseDups := by
  have hd : Document.ofEvents styledEvents = .ok _ := rfl
  exact ⟨_, hd, by decide +kernel, by decide +kernel, identifiers_eraseDups_eq hd⟩

/-- The import of styles is empty for a document without styles and for no other. Cut at each comma
with a space behind it, it gives the identifiers of the styles, whatever these hold. -/
theorem styles_import_read_back {events : List Event} {d : Document}
    (h : Document.ofEvents events = .ok d) :
    (Identifier.importList d.styles.names = "" ↔ d.styles.isEmpty) ∧
    (d.styles.isEmpty = false → Identifier.items (Identifier.importList d.styles.names) =
      d.styles.names.map Identifier.sanitize) := by
  have hlistable : ∀ name ∈ d.styles.names, Identifier.Listable name :=
    fun _ hname => Document.listable_of_mem_styles h hname
  constructor
  · rw [Identifier.importList_eq_empty_iff hlistable, NameSet.isEmpty, List.isEmpty_iff]
  · intro hempty
    apply Identifier.items_importList _ hlistable
    rwa [NameSet.isEmpty, List.isEmpty_eq_false_iff] at hempty

/-- Class names that begin or end with commas, or are nothing else. -/
def commaEvents : List Event :=
  [.openTag "p" (.ofPairs [("class", ",a, b-c,,\t\x7d")]), .closeTag,
    .openTag "p" (.ofPairs [("class", ", ,a,")])]

theorem commaEvents_styles_read_back :
    ∃ d, Document.ofEvents commaEvents = .ok d ∧ d.styles.isEmpty = false ∧
      Identifier.importList d.styles.names = ",a,, b_c,,, \x7d, ," ∧
      Identifier.items (Identifier.importList d.styles.names) =
        d.styles.names.map Identifier.sanitize ∧
      d.styles.names = [",a,", "b-c,,", "\x7d", ","] := by
  have hd : Document.ofEvents commaEvents = .ok _ := rfl
  refine ⟨_, hd, by decide +kernel, by decide +kernel, ?_, by decide +kernel⟩
  exact (styles_import_read_back hd).2 (by decide +kernel)

end Component

end HtmlComponent
