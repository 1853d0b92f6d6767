import HtmlComponent.Proofs.Component.Imports
import HtmlComponent.Proofs.Text.Casing
import HtmlComponent.Proofs.Text.Lines

/-!
# Modules are uniquely readable

All modules share one frame. What differs stands in slots: four of them on lines of their own before
the body, and the body, which may hold anything, lines of the frame as well. The four are found by
counting lines from the start. With the name of the class all that follows the body is known, so the
body is what is left.
-/

namespace HtmlComponent.Component

/-- What a module has in the frame that all modules share. -/
structure Slots where
  elements : String
  styles : String
  library : String
  className : String
  body : String

/-- The slots before the body are on one line each. -/
structure Slots.OneLine (s : Slots) : Prop where
  elements : Text.OneLine s.elements
  styles : Text.OneLine s.styles
  library : Text.OneLine s.library
  className : Text.OneLine s.className

def slots (styles elements body : String) (options : Options) : Slots :=
  -- a name that is left out or empty has its default here, as in the module
  ⟨elements, styles, options.library, options.componentName, body⟩

def documentSlots (d : Document) (options : Options) : Slots :=
  slots (Identifier.importList d.styles.names) (Identifier.importList d.elements.names)
    (Body.ofRoot d.root) options

/-! ## Reading the slots -/

/-- A slot can be read if a line ends in the fixed text behind it. -/
theorem slot_inj {behind s t rest rest' : String} (hbehind : ¬ Text.OneLine behind)
    (hs : Text.OneLine s) (ht : Text.OneLine t)
    (h : s ++ (behind ++ rest) = t ++ (behind ++ rest')) : s = t ∧ rest = rest' := by
  rcases Text.exists_oneLine_append hbehind with ⟨line, more, hline, rfl⟩
  have hends : s ++ line ++ "\n" ++ (more ++ rest) = t ++ line ++ "\n" ++ (more ++ rest') := by
    simpa only [String.append_assoc] using h
  rcases Text.oneLine_append_inj (Text.oneLine_append.mpr ⟨hs, hline⟩)
    (Text.oneLine_append.mpr ⟨ht, hline⟩) hends with ⟨hstart, hrest⟩
  rw [String.append_left_inj] at hstart
  rw [String.append_right_inj] at hrest
  exact ⟨hstart, hrest⟩

def frameEnd (className constant : String) : String :=
  "\n        );\n    \x7d\n\x7d\n" ++
    "export const " ++ constant ++ " = cpt<" ++ className ++ ">(" ++ className ++ ");\n"

theorem moduleText_eq_slots (elements styles library className constant body : String) :
    moduleText elements styles library className constant body =
      "\nimport \x7b " ++
      (elements ++ ((" \x7d from \"" ++ domModule ++ "\"\n" ++
        "import \x7b globalStyles \x7d from \"" ++ styleModule ++ "\"\n" ++ "import \x7b ") ++
      (styles ++ (" \x7d\n    from \"" ++
      (library ++ (("\"\n\n" ++ "class ") ++
      (className ++ ((" extends HTMLElement \x7b\n" ++
        "    constructor() \x7b\n        super();\n\n        shadow(this, globalStyles(),\n") ++
      (body ++ frameEnd className constant))))))))) := by
  unfold moduleText frameEnd
  -- the texts stay as they are written, so that both sides have the same ones
  simp only [String.append_assoc, -String.reduceAppend]

theorem slots_eq_of_moduleText_eq {s t : Slots} (hs : s.OneLine) (ht : t.OneLine)
    {constant constant' : String}
    (hconstant : s.className = t.className → constant = constant')
    (h : moduleText s.elements s.styles s.library s.className constant s.body =
      moduleText t.elements t.styles t.library t.className constant' t.body) : s = t := by
  rw [moduleText_eq_slots, moduleText_eq_slots, String.append_right_inj] at h
  -- one slot after the other from the start, each up to the end of its line
  rcases slot_inj (by decide +kernel) hs.elements ht.elements h with ⟨helements, h⟩
  rcases slot_inj (by decide +kernel) hs.styles ht.styles h with ⟨hstyles, h⟩
  rcases slot_inj (by decide +kernel) hs.library ht.library h with ⟨hlibrary, h⟩
  rcases slot_inj (by decide +kernel) hs.className ht.className h with ⟨hname, h⟩
  -- the body need not be on one line: the text behind it is the same on both sides by now
  rw [hname, hconstant hname, String.append_left_inj] at h
  cases s
  cases t
  rw [Slots.mk.injEq]
  exact ⟨helements, hstyles, hlibrary, hname, h⟩

theorem slots_eq_of_render_eq {styles elements body styles' elements' body' : String}
    {options options' : Options} (hs : (slots styles elements body options).OneLine)
    (ht : (slots styles' elements' body' options').OneLine)
    (h : render styles elements body options = render styles' elements' body' options') :
    slots styles elements body options = slots styles' elements' body' options' := by
  rcases exists_lowerFirst?_componentName options with ⟨constant, hconstant⟩
  rcases exists_lowerFirst?_componentName options' with ⟨constant', hconstant'⟩
  rw [render_eq_moduleText hconstant, render_eq_moduleText hconstant', Except.ok.injEq] at h
  refine slots_eq_of_moduleText_eq hs ht ?_ h
  -- the constant is named after the class
  intro hname
  rw [show options.componentName = options'.componentName from hname, hconstant'] at hconstant
  exact (Option.some.inj hconstant).symm

/-! ## Modules of documents -/

theorem oneLine_styles {events : List Event} {d : Document}
    (h : Document.ofEvents events = .ok d) :
    Text.OneLine (Identifier.importList d.styles.names) := by
  apply Text.oneLine_importList
  intro name hname
  rw [Document.styles_ofEvents h, List.mem_eraseDups] at hname
  exact Text.oneLine_of_isWord (Document.isWord_of_mem_classTokens hname)

theorem oneLine_elements {events : List Event} {d : Document}
    (hnames : ∀ name as, .openTag name as ∈ events → Text.OneLine name)
    (h : Document.ofEvents events = .ok d) :
    Text.OneLine (Identifier.importList d.elements.names) := by
  apply Text.oneLine_importList
  intro name hname
  rw [Document.elements_ofEvents h, List.mem_eraseDups] at hname
  rcases List.mem_append.mp hname with hseeded | htag
  · have hall : ∀ seeded ∈ Document.Builder.seededElements, Text.OneLine seeded := by decide
    exact hall name hseeded
  · rcases Document.exists_openTag_of_mem_tagNames h htag with ⟨given, as, hopen, rfl⟩
    -- a line feed in the lower case of a name comes from the name itself
    intro hfeed
    exact hnames given as hopen (Text.mem_of_mem_lower (by decide) (by decide) hfeed)

theorem oneLine_documentSlots {events : List Event} {d : Document} {options : Options}
    (hnames : ∀ name as, .openTag name as ∈ events → Text.OneLine name)
    (h : Document.ofEvents events = .ok d) (hlibrary : Text.OneLine options.library)
    (hname : Text.OneLine options.componentName) : (documentSlots d options).OneLine where
  elements := oneLine_elements hnames h
  styles := oneLine_styles h
  library := hlibrary
  className := hname

/-- A module tells its slots if all but the body are on one line each. The styles of a document
always are, and its elements are if the names of the tags are. -/
theorem modules_readable :
    (∀ styles elements body options, ∃ text, render styles elements body options = .ok text) ∧
    (∀ styles elements body options styles' elements' body' options',
      (slots styles elements body options).OneLine →
      (slots styles' elements' body' options').OneLine →
      render styles elements body options = render styles' elements' body' options' →
      slots styles elements body options = slots styles' elements' body' options') ∧
    (∀ events d, Document.ofEvents events = .ok d →
      Text.OneLine (Identifier.importList d.styles.names)) ∧
    ∀ events d options events' d' options', Document.ofEvents events = .ok d →
      Document.ofEvents events' = .ok d' →
      (∀ name as, .openTag name as ∈ events → Text.OneLine name) →
      (∀ name as, .openTag name as ∈ events' → Text.OneLine name) →
      Text.OneLine options.library → Text.OneLine options.componentName →
      Text.OneLine options'.library → Text.OneLine options'.componentName →
      compile d options = compile d' options' →
      documentSlots d options = documentSlots d' options' := by
  refine ⟨?_, ?_, ?_, ?_⟩
  · intro styles elements body options
    rcases exists_lowerFirst?_componentName options with ⟨constant, hconstant⟩
    exact ⟨_, render_eq_moduleText hconstant styles elements body⟩
  · intro styles elements body options styles' elements' body' options' hs ht heq
    exact slots_eq_of_render_eq hs ht heq
  · intro events d h
    exact oneLine_styles h
  · intro events d options events' d' options' h h' hnames hnames' hl hn hl' hn' heq
    exact slots_eq_of_render_eq (oneLine_documentSlots hnames h hl hn)
      (oneLine_documentSlots hnames' h' hl' hn') heq

/-- A body that ends its module and starts another. -/
def moduleLikeBody : String :=
  "            p()\n        );\n    \x7d\n\x7d\nexport const a = cpt<A>(A);\n" ++
    "\nimport \x7b cpt \x7d from \"ts-mini/dom\"\n\nclass B extends HTMLElement \x7b\n"

/-- A tag whose class takes two lines. -/
def lineClassEvents : List Event :=
  [.openTag "P" (.ofPairs [("class", "a\nb")])]

def wordClassEvents : List Event :=
  [.openTag "p" (.ofPairs [("class", "a b")]), .closeTag, .text " "]

theorem moduleLikeBody_readable :
    render "a" "cpt" moduleLikeBody {} ≠ render "a" "cpt" "            p()" {} ∧
    ∃ d d', Document.ofEvents lineClassEvents = .ok d ∧ Document.ofEvents wordClassEvents = .ok d' ∧
      compile d {} = compile d' ⟨some "", some "YourStyleLibrary"⟩ ∧
      documentSlots d {} = documentSlots d' ⟨some "", some "YourStyleLibrary"⟩ := by
  rcases modules_readable with ⟨-, hrender, -, hcompile⟩
  constructor
  · -- the body of one module goes on with what ends the other
    intro heq
    have hslots := hrender _ _ _ _ _ _ _ _ ⟨by decide, by decide, by decide, by decide⟩
      ⟨by decide, by decide, by decide, by decide⟩ heq
    exact absurd (congrArg Slots.body hslots) (by decide)
  · have hparts : ∃ d d', Document.ofEvents lineClassEvents = .ok d ∧
        Document.ofEvents wordClassEvents = .ok d' ∧
        Identifier.importList d.styles.names = Identifier.importList d'.styles.names ∧
        Identifier.importList d.elements.names = Identifier.importList d'.elements.names ∧
        Body.ofRoot d.root = Body.ofRoot d'.root :=
      ⟨_, _, rfl, rfl, by decide +kernel, by decide +kernel, by decide +kernel⟩
    rcases hparts with ⟨d, d', hline, hword, hstyles, helements, hbody⟩
    have heq : compile d {} = compile d' ⟨some "", some "YourStyleLibrary"⟩ := by
      rw [compile, compile, hstyles, helements, hbody]
      rfl
    refine ⟨d, d', hline, hword, heq, hcompile _ _ _ _ _ _ hline hword ?_ ?_ (by decide)
      (by decide) (by decide) (by decide) heq⟩
    · simp [lineClassEvents, Text.OneLine]
    · simp [wordClassEvents, Text.OneLine]

end HtmlComponent.Component
