import Mathlib.Data.List.Nodup
import HtmlComponent.Proofs.Component.Imports
import HtmlComponent.Proofs.Text.Casing

/-!
# The names that a module binds

A module binds the identifiers of its two import lists, the function for global styles, its class
and its exported constant. Names are collected as they are written and become identifiers only when
they are imported. So a list binds an identifier twice if two of its names are alike, and
declarations of different kinds can bind the same one. Here it is said exactly when.
-/

namespace HtmlComponent.Component

open Document.Builder

/-- The identifiers that are imported for a set of names. -/
def imported (names : NameSet) : List String :=
  names.names.map Identifier.sanitize

theorem mem_imported {names : NameSet} {given : List String}
    (h : names.names = given.eraseDups) {identifier : String} :
    identifier ∈ imported names ↔ ∃ name ∈ given, Identifier.sanitize name = identifier := by
  rw [imported, h, List.mem_map]
  simp only [List.mem_eraseDups]

/-! ## Identifiers of one list -/

/-- Names that are dropped are equal to others, so only names that are alike can clash. -/
theorem nodup_imported {names : NameSet} {given : List String}
    (h : names.names = given.eraseDups) :
    (imported names).Nodup ↔ ∀ s ∈ given, ∀ t ∈ given, Identifier.alike s t → s = t := by
  rw [imported, List.nodup_map_iff_inj_on names.nodup, h]
  simp only [List.mem_eraseDups, Identifier.alike_iff]

/-- The imports for styles are distinct exactly if no two class names of the tree are alike, and
those for calls exactly if no two names of tags are, with the names that every module imports. -/
theorem nodup_imported_iff {events : List Event} {d : Document}
    (h : Document.ofEvents events = .ok d) :
    ((imported d.styles).Nodup ↔ ∀ s ∈ d.root.classTokens, ∀ t ∈ d.root.classTokens,
      Identifier.alike s t → s = t) ∧
    ((imported d.elements).Nodup ↔ ∀ s ∈ seededElements ++ d.root.tagNames,
      ∀ t ∈ seededElements ++ d.root.tagNames, Identifier.alike s t → s = t) := by
  have hstyles := Document.styles_ofEvents h
  have helements := Document.elements_ofEvents h
  exact ⟨nodup_imported hstyles, nodup_imported helements⟩

/-- Two class names that are alike, and two tags. -/
def alikeEvents : List Event :=
  [.openTag "x-y" (.ofPairs [("class", "a-b a_b")]), .openTag "X_y" .empty]

theorem alikeEvents_nodup_imported_iff :
    ∃ d, Document.ofEvents alikeEvents = .ok d ∧
      d.root.classTokens = ["a-b", "a_b"] ∧ d.root.tagNames = ["x-y", "x_y"] ∧
      ((imported d.styles).Nodup ↔ ∀ s ∈ d.root.classTokens, ∀ t ∈ d.root.classTokens,
        Identifier.alike s t → s = t) ∧
      ((imported d.elements).Nodup ↔ ∀ s ∈ seededElements ++ d.root.tagNames,
        ∀ t ∈ seededElements ++ d.root.tagNames, Identifier.alike s t → s = t) := by
  have hd : Document.ofEvents alikeEvents = .ok _ := rfl
  exact ⟨_, hd, by decide +kernel, by decide +kernel, nodup_imported_iff hd⟩

/-- Both lists bind an identifier twice. -/
theorem alikeEvents_imported_not_nodup :
    ∃ d, Document.ofEvents alikeEvents = .ok d ∧
      Identifier.importList d.styles.names = "a_b, a_b" ∧ ¬ (imported d.styles).Nodup ∧
      Identifier.importList d.elements.names = "cpt, shadow, x_y, x_y" ∧
      ¬ (imported d.elements).Nodup :=
  ⟨_, rfl, by decide +kernel, by decide +kernel, by decide +kernel, by decide +kernel⟩

/-! ## Declarations of different kinds -/

/-- What the declarations of a module bind, one list for each kind. -/
def bindings (d : Document) (className constant : String) : List (List String) :=
  [imported d.elements, ["globalStyles"], imported d.styles, [className], [constant]]

/-- What has to hold of a tree, of a class and of its constant for a module to bind no name by two
kinds of declarations. -/
structure Apart (root : Node) (className constant : String) : Prop where
  /-- No class name has the identifier of an element. -/
  styles_elements : ∀ token ∈ root.classTokens, ∀ name ∈ seededElements ++ root.tagNames,
    ¬ Identifier.alike token name
  styles_global : "globalStyles" ∉ root.classTokens
  /-- The name of the class does not start in lower case already. -/
  class_constant : className ≠ constant
  class_global : className ≠ "GlobalStyles"
  /-- Nothing that is imported has the name of the class or of the constant. -/
  imports : ∀ name ∈ seededElements ++ root.tagNames ++ root.classTokens,
    Identifier.sanitize name ≠ className ∧ Identifier.sanitize name ≠ constant

theorem pairwise_bindings_iff (d : Document) (className constant : String) :
    (bindings d className constant).Pairwise List.Disjoint ↔
      "globalStyles" ∉ imported d.elements ∧ (imported d.elements).Disjoint (imported d.styles) ∧
      className ∉ imported d.elements ∧ constant ∉ imported d.elements ∧
      "globalStyles" ∉ imported d.styles ∧ "globalStyles" ≠ className ∧
      "globalStyles" ≠ constant ∧ className ∉ imported d.styles ∧ constant ∉ imported d.styles ∧
      className ≠ constant := by
  simp [bindings, and_assoc]

/-- Tags are in lower case, so none of them has the name of the function for global styles. -/
theorem globalStyles_not_mem_elements {events : List Event} {d : Document}
    (h : Document.ofEvents events = .ok d) : "globalStyles" ∉ imported d.elements := by
  rw [mem_imported (Document.elements_ofEvents h)]
  rintro ⟨name, hname, hsanitize⟩
  have hglobal : name = "globalStyles" := Identifier.eq_of_sanitize_eq (by decide) hsanitize
  subst hglobal
  rcases List.mem_append.mp hname with hseeded | htag
  · exact absurd hseeded (by decide)
  · rcases Document.exists_openTag_of_mem_tagNames h htag with ⟨given, -, -, hlower⟩
    -- the capital letter would have to be left by lower case
    have hcapital : 'S' ∈ (Text.lower given).toList := by
      rw [hlower]
      decide
    exact absurd (Text.isUpper_of_mem_lower hcapital) (by decide)

theorem globalStyles_mem_styles_iff {events : List Event} {d : Document}
    (h : Document.ofEvents events = .ok d) :
    "globalStyles" ∈ imported d.styles ↔ "globalStyles" ∈ d.root.classTokens := by
  rw [mem_imported (Document.styles_ofEvents h)]
  constructor
  · rintro ⟨token, htoken, hsanitize⟩
    rwa [← Identifier.eq_of_sanitize_eq (by decide) hsanitize]
  · intro hmem
    exact ⟨"globalStyles", hmem, by decide +kernel⟩

/-- Two class names have a constant of this name. -/
theorem lowerFirst?_eq_globalStyles_iff (className : String) :
    Text.lowerFirst? className = some "globalStyles" ↔
      className = "globalStyles" ∨ className = "GlobalStyles" := by
  constructor
  · intro h
    unfold Text.lowerFirst? at h
    split at h
    · cases h
    · rename_i c cs hname
      have hchars : Text.lowerChar c ++ cs = 'g' :: "lobalStyles".toList := by
        rw [Option.some.injEq] at h
        rw [← String.toList_ofList (l := Text.lowerChar c ++ cs), h]
        rfl
      rcases Text.lowerChar_append_eq_g hchars with ⟨hc, rfl⟩
      rw [← String.ofList_toList (s := className), hname]
      rcases hc with rfl | rfl
      · exact .inl rfl
      · exact .inr rfl
  · rintro (rfl | rfl) <;> decide +kernel

theorem disjoint_imported_iff {events : List Event} {d : Document}
    (h : Document.ofEvents events = .ok d) :
    (imported d.elements).Disjoint (imported d.styles) ↔
      ∀ token ∈ d.root.classTokens, ∀ name ∈ seededElements ++ d.root.tagNames,
        ¬ Identifier.alike token name := by
  simp only [List.Disjoint, mem_imported (Document.elements_ofEvents h),
    mem_imported (Document.styles_ofEvents h), Identifier.alike_iff]
  constructor
  · intro hdisjoint token htoken name hname heq
    exact hdisjoint ⟨name, hname, heq.symm⟩ ⟨token, htoken, rfl⟩
  · rintro hapart identifier ⟨name, hname, rfl⟩ ⟨token, htoken, heq⟩
    exact hapart token htoken name hname heq

theorem not_mem_imported_iff {events : List Event} {d : Document}
    (h : Document.ofEvents events = .ok d) (identifier : String) :
    (identifier ∉ imported d.elements ∧ identifier ∉ imported d.styles) ↔
      ∀ name ∈ seededElements ++ d.root.tagNames ++ d.root.classTokens,
        Identifier.sanitize name ≠ identifier := by
  rw [mem_imported (Document.elements_ofEvents h), mem_imported (Document.styles_ofEvents h),
    List.forall_mem_append]
  simp only [not_exists, not_and, ne_eq]

/-- A module binds the function for global styles apart from its calls. It binds no name by two
kinds of declarations exactly if the class names, the names of tags and the name of the class keep
apart by themselves. -/
theorem bindings_disjoint_iff {events : List Event} {d : Document}
    (h : Document.ofEvents events = .ok d) (options : Options) :
    ∃ constant, Text.lowerFirst? options.componentName = some constant ∧
      compile d options = .ok (moduleText (Identifier.importList d.elements.names)
        (Identifier.importList d.styles.names) options.library options.componentName constant
        (Body.ofRoot d.root)) ∧
      "globalStyles" ∉ imported d.elements ∧
      ((bindings d options.componentName constant).Pairwise List.Disjoint ↔
        Apart d.root options.componentName constant) := by
  rcases exists_lowerFirst?_componentName options with ⟨constant, hconstant⟩
  have hglobal := globalStyles_not_mem_elements h
  have hclass := not_mem_imported_iff h options.componentName
  have hinstance := not_mem_imported_iff h constant
  refine ⟨constant, hconstant, compile_eq_moduleText hconstant d, hglobal, ?_⟩
  rw [pairwise_bindings_iff, disjoint_imported_iff h, globalStyles_mem_styles_iff h]
  constructor
  · rintro ⟨-, hse, hce, hke, hsg, -, hkg, hcs, hks, hck⟩
    refine ⟨hse, hsg, hck, fun hcapital => hkg ?_, fun name hname => ?_⟩
    · have hlower := (lowerFirst?_eq_globalStyles_iff options.componentName).mpr (.inr hcapital)
      rw [hconstant, Option.some.injEq] at hlower
      exact hlower.symm
    · exact ⟨hclass.mp ⟨hce, hcs⟩ name hname, hinstance.mp ⟨hke, hks⟩ name hname⟩
  · rintro ⟨hse, hsg, hck, hcg, himports⟩
    rcases hclass.mpr fun name hname => (himports name hname).1 with ⟨hce, hcs⟩
    rcases hinstance.mpr fun name hname => (himports name hname).2 with ⟨hke, hks⟩
    -- a class with the name of the function would be its own constant
    have hself : options.componentName = "globalStyles" → constant = "globalStyles" := by
      intro hname
      have hlower := (lowerFirst?_eq_globalStyles_iff options.componentName).mpr (.inl hname)
      rw [hconstant, Option.some.injEq] at hlower
      exact hlower
    have hkg : constant ≠ "globalStyles" := by
      rintro rfl
      rcases (lowerFirst?_eq_globalStyles_iff options.componentName).mp hconstant with hn | hn
      · exact hck hn
      · exact hcg hn
    exact ⟨hglobal, hse, hce, hke, hsg, fun hname => hkg (hself hname.symm), Ne.symm hkg, hcs, hks,
      hck⟩

/-- A tag, two classes and a component, all of different names. -/
def cardEvents : List Event :=
  [.openTag "Section" (.ofPairs [("class", "card globalstyles")]), .text "t"]

theorem cardEvents_bindings_disjoint :
    ∃ d constant, Document.ofEvents cardEvents = .ok d ∧
      Text.lowerFirst? "UserCard" = some constant ∧
      compile d ⟨some "UserCard", none⟩ = .ok (moduleText
        (Identifier.importList d.elements.names) (Identifier.importList d.styles.names)
        "YourStyleLibrary" "UserCard" constant (Body.ofRoot d.root)) ∧
      "globalStyles" ∉ imported d.elements ∧ Apart d.root "UserCard" constant ∧
      (bindings d "UserCard" constant).Pairwise List.Disjoint := by
  have hd : Document.ofEvents cardEvents = .ok _ := rfl
  rcases bindings_disjoint_iff hd ⟨some "UserCard", none⟩ with
    ⟨constant, hconstant, hcompile, hglobal, hiff⟩
  have hlower : Text.lowerFirst? "UserCard" = some "userCard" := by decide +kernel
  have hname : constant = "userCard" := Option.some.inj (hconstant.symm.trans hlower)
  subst hname
  refine ⟨_, _, hd, hconstant, hcompile, hglobal, (and_iff_left_of_imp hiff.mpr).mpr ?_⟩
  exact ⟨by decide +kernel, by decide +kernel, by decide, by decide, by decide +kernel⟩

/-- A tag and a class of one name: the module imports it twice. -/
theorem sameName_bindings_not_disjoint :
    ∃ d, Document.ofEvents [.openTag "div" (.ofPairs [("class", "div")]), .closeTag] = .ok d ∧
      Text.lowerFirst? ({} : Options).componentName = some "yourComponentName" ∧
      Identifier.importList d.elements.names = "cpt, shadow, div" ∧
      Identifier.importList d.styles.names = "div" ∧
      ¬ (bindings d ({} : Options).componentName "yourComponentName").Pairwise List.Disjoint := by
  refine ⟨_, rfl, by decide +kernel, by decide +kernel, by decide +kernel, fun h => ?_⟩
  rw [pairwise_bindings_iff] at h
  exact h.2.1 (show "div" ∈ _ by decide +kernel) (show "div" ∈ _ by decide +kernel)

end HtmlComponent.Component
