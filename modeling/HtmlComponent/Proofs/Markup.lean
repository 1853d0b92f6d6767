import HtmlComponent.Markup
import HtmlComponent.Proofs.Component.Module
import HtmlComponent.Proofs.Document.Events
import HtmlComponent.Proofs.Dom.Image

/-!
# Markup always has a component

Whatever tree a parser makes of markup, its events never close more than they open, so a document is
built from them. And every document has a module, since a name that is missing or empty gives way to
the default before its first character is looked at. What can fail is building from other events.
-/

namespace HtmlComponent

namespace Dom

open Document.Builder

/-- The document of parsed markup, whatever the parser. -/
theorem exists_document (parsed : Dom) :
    ∃ d, Document.ofEvents parsed.documentEvents = .ok d ∧
      d.root = .root parsed.documentImage := by
  rcases (adds_documentEvents parsed).exists_finished with ⟨b, -, -, hdocument, hroot⟩
  exact ⟨b.finish, hdocument, hroot⟩

end Dom

namespace Component

theorem ofEvents_eq_compile {events : List Event} {d : Document}
    (h : Document.ofEvents events = .ok d) (options : Options) :
    ofEvents events options = compile d options := by
  rw [ofEvents, h]

theorem exists_compile_eq_ok (d : Document) (options : Options) :
    ∃ text, compile d options = .ok text := by
  rcases exists_compile_eq_moduleText options with ⟨constant, hcompile⟩
  exact ⟨_, hcompile d⟩

/-- Compiling events fails as building fails, and in no other way. -/
theorem ofEvents_eq_error_iff (events : List Event) (options : Options) (e : Error) :
    ofEvents events options = .error e ↔ Document.ofEvents events = .error e := by
  cases hbuild : Document.ofEvents events with
  | error e' => rw [ofEvents, hbuild]; simp
  | ok d =>
    rcases exists_compile_eq_ok d options with ⟨text, hcompile⟩
    rw [ofEvents_eq_compile hbuild, hcompile]
    simp

theorem ofEvents_ne_emptyName (events : List Event) (options : Options) :
    ofEvents events options ≠ .error .emptyName := by
  rw [ne_eq, ofEvents_eq_error_iff]
  -- building has one way to fail, and an empty name is not it
  rcases Document.ofEvents_cases events with ⟨-, b, -, -, hok⟩ | ⟨-, herror⟩
  · rw [hok]
    exact fun h => nomatch h
  · rw [herror]
    exact fun h => nomatch h

end Component

namespace Markup

theorem component_eq_compile {markup : String} {d : Document} (h : document markup = .ok d)
    (options : Options) : component markup options = Component.compile d options := by
  -- by the bare definition, lest the parser be run on its unknown input
  delta component
  rw [h]

/-- Markup has a component whatever the options, and so has every parsed tree and every document.
Compiling events fails exactly if building does, with the same error, which is never that of an empty
name. -/
theorem component_succeeds :
    (∀ (markup : String) (options : Options), ∃ d constant, document markup = .ok d ∧
      d.root = .root (Html.parse markup).documentImage ∧
      Text.lowerFirst? options.componentName = some constant ∧
      component markup options = .ok (Component.moduleText
        (Identifier.importList d.elements.names) (Identifier.importList d.styles.names)
        options.library options.componentName constant (Component.Body.ofRoot d.root))) ∧
    (∀ (parsed : Dom) (options : Options), ∃ text,
      Component.ofEvents parsed.documentEvents options = .ok text) ∧
    (∀ (d : Document) (options : Options), ∃ text, Component.compile d options = .ok text) ∧
    (∀ (events : List Event) (options : Options),
      (∀ e, Component.ofEvents events options = .error e ↔ Document.ofEvents events = .error e) ∧
      Component.ofEvents events options ≠ .error .emptyName) := by
  refine ⟨fun markup options => ?_, fun parsed options => ?_, Component.exists_compile_eq_ok,
    fun events options => ?_⟩
  · rcases (Html.parse markup).exists_document with ⟨d, hdocument, hroot⟩
    rcases Component.exists_lowerFirst?_componentName options with ⟨constant, hconstant⟩
    refine ⟨d, constant, hdocument, hroot, hconstant, ?_⟩
    rw [component_eq_compile hdocument, Component.compile_eq_moduleText hconstant]
  · rcases parsed.exists_document with ⟨d, hdocument, -⟩
    rw [Component.ofEvents_eq_compile hdocument]
    exact Component.exists_compile_eq_ok d options
  · exact ⟨Component.ofEvents_eq_error_iff events options,
      Component.ofEvents_ne_emptyName events options⟩

end Markup

end HtmlComponent
