import HtmlComponent.Component.Module
import HtmlComponent.Html.Parse

/-!
# From markup to a component
-/

namespace HtmlComponent.Markup

/-- The events of a piece of markup. -/
def events (markup : String) : List Event :=
  (Html.parse markup).documentEvents

/-- The document of a piece of markup. -/
def document (markup : String) : Except Error Document :=
  Document.ofEvents (events markup)

/-- The component module of a piece of markup. -/
def component (markup : String) (options : Options) : Except Error String :=
  match document markup with
  | .error e => .error e
  | .ok d => Component.compile d options

end HtmlComponent.Markup
