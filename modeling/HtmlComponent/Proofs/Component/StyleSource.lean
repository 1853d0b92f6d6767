import HtmlComponent.Proofs.Component.Module
import HtmlComponent.Proofs.Text.Lines
import HtmlComponent.Proofs.Text.StringLiteral

/-!
# Where a module takes its styles from

The style names of a module are followed by a line with the library that they come from. The library
is put between quotes as it is, so a reader of the module finds it there exactly if it has no quote
and no backslash.
-/

namespace HtmlComponent.Component

/-- A module up to its style names. -/
def importText (elements styles : String) : String :=
  "\nimport \x7b " ++ elements ++ " \x7d from \"" ++ domModule ++ "\"\n" ++
  "import \x7b globalStyles \x7d from \"" ++ styleModule ++ "\"\n" ++
  "import \x7b " ++ styles ++ " \x7d"

def documentImports (d : Document) : String :=
  importText (Identifier.importList d.elements.names) (Identifier.importList d.styles.names)

/-- The line that names the library. -/
def sourceLine (library : String) : String :=
  "    from \"" ++ library ++ "\""

/-- The value of the literal on such a line, if the line ends with the literal. -/
def specifier? (line : String) : Option (List Nat) :=
  match line.toList with
  | ' ' :: ' ' :: ' ' :: ' ' :: 'f' :: 'r' :: 'o' :: 'm' :: ' ' :: '"' :: s =>
    match Text.literalBody s with
    | some (value, []) => some value
    | _ => none
  | _ => none

/-! ## Finding the line -/

theorem moduleText_eq_sourceLine (elements styles library className constant body : String) :
    ∃ rest, moduleText elements styles library className constant body =
      importText elements styles ++ "\n" ++ (sourceLine library ++ "\n" ++ rest) := by
  refine ⟨"\nclass " ++ className ++ " extends HTMLElement \x7b\n" ++
    "    constructor() \x7b\n        super();\n\n        shadow(this, globalStyles(),\n" ++
    body ++ "\n        );\n    \x7d\n\x7d\n" ++
    "export const " ++ constant ++ " = cpt<" ++ className ++ ">(" ++ className ++ ");\n", ?_⟩
  rw [← String.toList_inj]
  unfold moduleText importText sourceLine
  simp [String.append_assoc]

/-- A library on one line is on the line right behind the imports. -/
theorem exists_splitLines_compile (d : Document) {options : Options}
    (h : Text.OneLine options.library) :
    ∃ text after, compile d options = .ok text ∧
      Text.splitLines text =
        Text.splitLines (documentImports d) ++ sourceLine options.library :: after := by
  rcases exists_compile_eq_moduleText options with ⟨constant, hcompile⟩
  rcases moduleText_eq_sourceLine (Identifier.importList d.elements.names)
    (Identifier.importList d.styles.names) options.library options.componentName constant
    (Body.ofRoot d.root) with ⟨rest, htext⟩
  have hline : Text.OneLine (sourceLine options.library) := by
    unfold sourceLine
    rw [Text.oneLine_append, Text.oneLine_append]
    exact ⟨⟨by decide, h⟩, by decide⟩
  refine ⟨_, Text.splitLines rest, hcompile d, ?_⟩
  rw [htext, Text.splitLines_append, Text.splitLines_oneLine_append hline]
  rfl

/-! ## Reading the line -/

theorem specifier?_sourceLine (library : String) (value : List Nat) :
    specifier? (sourceLine library) = some value ↔
      Text.literalBody (library.toList ++ ['"']) = some (value, []) := by
  have hline : (sourceLine library).toList =
      ' ' :: ' ' :: ' ' :: ' ' :: 'f' :: 'r' :: 'o' :: 'm' :: ' ' :: '"' ::
        (library.toList ++ ['"']) := by
    simp [sourceLine]
  unfold specifier?
  rw [hline]
  cases hread : Text.literalBody (library.toList ++ ['"']) with
  | none => simp [hread]
  | some read =>
    obtain ⟨us, rest⟩ := read
    cases rest <;> simp [hread]

/-- A library without line ends is read back from the line behind the imports exactly if it has no
quote and no backslash. -/
theorem library_read_back_iff (d : Document) {options : Options}
    (hfeed : '\n' ∉ options.library.toList) (hreturn : '\r' ∉ options.library.toList) :
    ∃ text line after, compile d options = .ok text ∧
      Text.splitLines text = Text.splitLines (documentImports d) ++ line :: after ∧
      line = sourceLine options.library ∧
      (specifier? line = some (Text.units options.library.toList) ↔
        '"' ∉ options.library.toList ∧ '\\' ∉ options.library.toList) := by
  rcases exists_splitLines_compile d hfeed with ⟨text, after, hcompile, hlines⟩
  refine ⟨text, _, after, hcompile, hlines, rfl, ?_⟩
  rw [specifier?_sourceLine, Text.literalBody_eq_units_iff]
  constructor
  · intro hplain
    exact ⟨fun hquote => (hplain _ hquote).1 rfl, fun hslash => (hplain _ hslash).2.1 rfl⟩
  · rintro ⟨hquote, hslash⟩ c hc
    exact ⟨fun h => hquote (h ▸ hc), fun h => hslash (h ▸ hc), fun h => hfeed (h ▸ hc),
      fun h => hreturn (h ▸ hc)⟩

/-- A library with a space and a character beyond sixteen bits. -/
def emojiOptions : Options :=
  ⟨none, some "./my 😀 styles"⟩

theorem emojiOptions_library_read_back :
    ∃ d text line after, Document.ofEvents [.openTag "p" (.ofPairs [("class", "a")])] = .ok d ∧
      compile d emojiOptions = .ok text ∧
      Text.splitLines text = Text.splitLines (documentImports d) ++ line :: after ∧
      specifier? line = some (Text.units "./my 😀 styles".toList) := by
  have hread : ∃ d, Document.ofEvents [.openTag "p" (.ofPairs [("class", "a")])] = .ok d := ⟨_, rfl⟩
  rcases hread with ⟨d, hd⟩
  have hfeed : '\n' ∉ emojiOptions.library.toList := by decide
  have hreturn : '\r' ∉ emojiOptions.library.toList := by decide
  rcases library_read_back_iff d hfeed hreturn with ⟨text, line, after, hcompile, hlines, -, hiff⟩
  exact ⟨d, text, line, after, hd, hcompile, hlines, hiff.mpr ⟨by decide, by decide⟩⟩

/-- A backslash is taken for an escape: this library is read without it. -/
theorem pathLibrary_not_read_back :
    ∃ d text line after, Document.ofEvents [] = .ok d ∧
      compile d ⟨none, some "C:\\lib"⟩ = .ok text ∧
      Text.splitLines text = Text.splitLines (documentImports d) ++ line :: after ∧
      specifier? line = some (Text.units "C:lib".toList) ∧
      specifier? line ≠ some (Text.units "C:\\lib".toList) := by
  have hread : ∃ d, Document.ofEvents [] = .ok d := ⟨_, rfl⟩
  rcases hread with ⟨d, hd⟩
  have hfeed : Text.OneLine (Options.library ⟨none, some "C:\\lib"⟩) := by decide
  rcases exists_splitLines_compile d hfeed with ⟨text, after, hcompile, hlines⟩
  have hvalue : specifier? (sourceLine "C:\\lib") = some (Text.units "C:lib".toList) := by
    have hescaped : Text.escaped "lib\"".toList = some (Text.units ['l'], "ib\"".toList) := by
      decide
    have hdrive : ∀ c ∈ "C:".toList, Text.IsPlain c := by simp [Text.IsPlain]
    have hrest : ∀ c ∈ "ib".toList, Text.IsPlain c := by simp [Text.IsPlain]
    have hlib : Text.literalBody ('\\' :: "lib\"".toList) = some (Text.units "lib".toList, []) :=
      Text.literalBody_escape hescaped (Text.literalBody_plain hrest [])
    rw [specifier?_sourceLine]
    change Text.literalBody ("C:".toList ++ '\\' :: "lib\"".toList) = _
    rw [Text.literalBody_append hdrive, hlib]
    rfl
  refine ⟨d, text, _, after, hd, hcompile, hlines, hvalue, ?_⟩
  change specifier? (sourceLine "C:\\lib") ≠ _
  rw [hvalue]
  decide

end HtmlComponent.Component
