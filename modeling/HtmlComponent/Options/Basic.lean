import HtmlComponent.Json

/-!
# Options

The name of the component class and the module that its styles come from. Both may be left out, and
an empty text counts as left out.
-/

namespace HtmlComponent

structure Options where
  name : Option String := none
  styleLibrary : Option String := none
  deriving DecidableEq

namespace Options

def defaultName : String := "YourComponentName"

def defaultStyleLibrary : String := "YourStyleLibrary"

def withName (o : Options) (name : String) : Options :=
  ⟨some name, o.styleLibrary⟩

def withStyleLibrary (o : Options) (library : String) : Options :=
  ⟨o.name, some library⟩

/-- The value, or the default if it is missing or empty. -/
def resolve (value : Option String) (default : String) : String :=
  match value with
  | none => default
  | some text => if text.isEmpty then default else text

/-- The name of the component class. -/
def componentName (o : Options) : String :=
  resolve o.name defaultName

/-- The module that the style names are imported from. -/
def library (o : Options) : String :=
  resolve o.styleLibrary defaultStyleLibrary

def toJson (o : Options) : Json :=
  .object [("name", .optional o.name), ("styleLibrary", .optional o.styleLibrary)]

end Options

end HtmlComponent
