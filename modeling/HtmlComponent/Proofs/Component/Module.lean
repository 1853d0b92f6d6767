import Mathlib.Data.List.Basic
import HtmlComponent.Component.Module
import HtmlComponent.Proofs.Identifier

/-!
# Modules and their parts

Every document has a module, whatever the options, since the name of the class is never empty. The
identifiers that it imports for its calls can be read off its text.
-/

namespace HtmlComponent

theorem Options.toList_resolve_ne_nil (value : Option String) {default : String}
    (h : default.toList ≠ []) : (resolve value default).toList ≠ [] := by
  unfold resolve
  split
  · exact h
  · split
    · exact h
    · rename_i hne
      simpa using hne

namespace Component

theorem exists_lowerFirst?_componentName (options : Options) :
    ∃ constant, Text.lowerFirst? options.componentName = some constant := by
  have hne : options.componentName.toList ≠ [] := Options.toList_resolve_ne_nil _ (by decide)
  rcases List.exists_cons_of_ne_nil hne with ⟨c, cs, hname⟩
  refine ⟨String.ofList (Text.lowerChar c ++ cs), ?_⟩
  simp only [Text.lowerFirst?, hname]

theorem render_eq_moduleText {options : Options} {constant : String}
    (h : Text.lowerFirst? options.componentName = some constant) (styles elements body : String) :
    render styles elements body options = .ok (moduleText elements styles options.library
      options.componentName constant body) := by
  have hconstant : Identifier.instanceName options.componentName = .ok constant := by
    simp only [Identifier.instanceName, h]
  rw [render, hconstant]

theorem compile_eq_moduleText {options : Options} {constant : String}
    (h : Text.lowerFirst? options.componentName = some constant) (d : Document) :
    compile d options = .ok (moduleText (Identifier.importList d.elements.names)
      (Identifier.importList d.styles.names) options.library options.componentName constant
      (Body.ofRoot d.root)) :=
  render_eq_moduleText h _ _ _

/-- A document has a module. Its options settle the name of the constant, and nothing of the
document does. -/
theorem exists_compile_eq_moduleText (options : Options) :
    ∃ constant, ∀ d, compile d options = .ok (moduleText (Identifier.importList d.elements.names)
      (Identifier.importList d.styles.names) options.library options.componentName constant
      (Body.ofRoot d.root)) := by
  rcases exists_lowerFirst?_componentName options with ⟨constant, hconstant⟩
  exact ⟨constant, compile_eq_moduleText hconstant⟩

/-! ## The first import -/

/-- What stands behind the identifiers that are imported for calls. -/
def domSource : String :=
  "\x7d from \"" ++ domModule ++ "\"\n"

/-- The identifiers that a module imports for its calls, read off its text. -/
def domImports? (text : String) : Option (List String) :=
  match text.toList.dropPrefix? "\nimport \x7b ".toList with
  | none => none
  | some s =>
    if domSource.toList.isPrefixOf (s.dropWhile (· != '\x7d')) then
      -- a space stands between the last identifier and the brace
      some (Identifier.listed (String.ofList (s.takeWhile (· != '\x7d')).dropLast))
    else none

theorem toList_moduleText (elements styles library className constant body : String) :
    ∃ rest, (moduleText elements styles library className constant body).toList =
      "\nimport \x7b ".toList ++ (elements.toList ++ [' '] ++ (domSource.toList ++ rest)) := by
  have hsplit : ∃ rest, moduleText elements styles library className constant body =
      "\nimport \x7b " ++ (elements ++ (" \x7d from \"" ++ (domModule ++ ("\"\n" ++ rest)))) := by
    unfold moduleText
    simp only [String.append_assoc]
    -- reducible, lest the texts be computed
    exact ⟨_, by with_reducible rfl⟩
  rcases hsplit with ⟨rest, hsplit⟩
  refine ⟨rest.toList, ?_⟩
  rw [hsplit]
  simp [domSource]

/-- The identifiers are found if none of them holds a brace. -/
theorem domImports?_moduleText {elements : String} (h : '\x7d' ∉ elements.toList)
    (styles library className constant body : String) :
    domImports? (moduleText elements styles library className constant body) =
      some (Identifier.listed elements) := by
  rcases toList_moduleText elements styles library className constant body with ⟨rest, htext⟩
  have hall : ∀ c ∈ elements.toList ++ [' '], (c != '\x7d') = true := by
    intro c hc
    rcases List.mem_append.mp hc with hc | hc
    · have hne : c ≠ '\x7d' := fun heq => h (heq ▸ hc)
      simpa using hne
    · rw [List.mem_singleton.mp hc]
      decide
  -- the brace that ends the identifiers is the first character of their source
  have hbrace : domSource.toList = '\x7d' :: (" from \"" ++ domModule ++ "\"\n").toList := by
    simp [domSource]
  have htake : (domSource.toList ++ rest).takeWhile (· != '\x7d') = [] := by
    rw [hbrace]
    rfl
  have hdrop : (domSource.toList ++ rest).dropWhile (· != '\x7d') = domSource.toList ++ rest := by
    rw [hbrace]
    rfl
  have hsource : domSource.toList.isPrefixOf (domSource.toList ++ rest) = true :=
    List.isPrefixOf_iff_prefix.mpr (List.prefix_append _ _)
  rw [domImports?, htext, List.dropPrefix?_append_of_beq _ BEq.rfl]
  simp only [List.takeWhile_append_of_pos hall, List.dropWhile_append_of_pos hall, htake, hdrop,
    hsource, ↓reduceIte, List.append_nil, List.dropLast_concat, String.ofList_toList]

end Component

end HtmlComponent
