import HtmlComponent.Error
import HtmlComponent.Text.Casing
import HtmlComponent.Text.Join

/-!
# Identifiers of a module
-/

namespace HtmlComponent.Identifier

/-- The identifier for a name: hyphens become underscores. -/
def sanitize (name : String) : String :=
  String.ofList (name.toList.map fun c => if c == '-' then '_' else c)

/-- The identifiers for the names, as an import lists them. -/
def importList (names : List String) : String :=
  Text.joinWith ", " (names.map sanitize)

/-- The name of an instance of a class: the class name with its first character in lower case. -/
def instanceName (className : String) : Except Error String :=
  match Text.lowerFirst? className with
  | none => .error .emptyName
  | some name => .ok name

end HtmlComponent.Identifier
