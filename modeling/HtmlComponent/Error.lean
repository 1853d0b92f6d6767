import HtmlComponent.Options.Fault

/-!
# Errors
-/

namespace HtmlComponent

inductive Error where
  /-- A tag closes while none is open. -/
  | unbalancedClose
  /-- A name is empty where its first character is needed. -/
  | emptyName
  /-- Options are written in a way that cannot be read. -/
  | invalidOptions (fault : Options.Fault)

def Error.message : Error → String
  | .unbalancedClose => "unbalanced close event: no open tag to close"
  | .emptyName => "cannot derive an identifier from an empty name"
  | .invalidOptions fault => "invalid transpile options: " ++ fault.message

end HtmlComponent
