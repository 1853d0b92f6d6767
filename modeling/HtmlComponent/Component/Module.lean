import HtmlComponent.Component.Body
import HtmlComponent.Document.Builder
import HtmlComponent.Options.Basic

/-!
# Component modules

The module text around an emitted body: the imports, the class and the exported constant.
-/

namespace HtmlComponent.Component

def domModule : String := "ts-mini/dom"

def styleModule : String := "ts-mini/tss"

/-- The module for a class and its exported constant. -/
def moduleText (elements styles library className constant body : String) : String :=
  "\nimport \x7b " ++ elements ++ " \x7d from \"" ++ domModule ++ "\"\n" ++
  "import \x7b globalStyles \x7d from \"" ++ styleModule ++ "\"\n" ++
  "import \x7b " ++ styles ++ " \x7d\n    from \"" ++ library ++ "\"\n\n" ++
  "class " ++ className ++ " extends HTMLElement \x7b\n" ++
  "    constructor() \x7b\n        super();\n\n        shadow(this, globalStyles(),\n" ++
  body ++ "\n        );\n    \x7d\n\x7d\n" ++
  "export const " ++ constant ++ " = cpt<" ++ className ++ ">(" ++ className ++ ");\n"

/-- The module around a body, with the import lists as given. -/
def render (styles elements body : String) (options : Options) : Except Error String :=
  match Identifier.instanceName options.componentName with
  | .error e => .error e
  | .ok constant =>
    .ok (moduleText elements styles options.library options.componentName constant body)

/-- The module of a document. -/
def compile (d : Document) (options : Options) : Except Error String :=
  render (Identifier.importList d.styles.names) (Identifier.importList d.elements.names)
    (Body.ofRoot d.root) options

/-- The module of the document that the events describe. -/
def ofEvents (events : List Event) (options : Options) : Except Error String :=
  match Document.ofEvents events with
  | .error e => .error e
  | .ok d => compile d options

end HtmlComponent.Component
