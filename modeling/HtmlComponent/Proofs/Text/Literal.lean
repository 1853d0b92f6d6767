import HtmlComponent.Proofs.Text.Quoted

/-!
# Reading a template literal back

A reader of template literals comes to the closing mark, or meets an interpolation, or finds
something that has no meaning in a literal. A quoted text always takes it to the closing mark, with
the text in hand and all that follows still ahead.
-/

namespace HtmlComponent.Text

/-! ## The reader -/

/-- What a backslash and one character stand for in a template literal. -/
def literalEscape? (c : Char) : Option Char :=
  if c == '\\' || c == '\x60' || c == '$' || c == '"' then some c
  else if c == 'b' then some '\x08'
  else if c == 'f' then some '\x0c'
  else if c == 'n' then some '\n'
  else if c == 'r' then some '\r'
  else if c == 't' then some '\t'
  else none

/-- The character with a code of four hexadecimal digits. -/
def hexChar? (i j k l : Char) : Option Char :=
  match Options.hexValue? i, Options.hexValue? j, Options.hexValue? k, Options.hexValue? l with
  | some i, some j, some k, some l =>
    let n := ((i * 16 + j) * 16 + k) * 16 + l
    if n.isValidChar then some (Char.ofNat n) else none
  | _, _, _, _ => none

inductive LiteralEnd where
  /-- The closing mark is reached: the text that was read, and what follows the mark. -/
  | closed (text rest : List Char)
  /-- An interpolation opens, and this follows its opening. -/
  | interpolation (rest : List Char)
  /-- An escape has no meaning, or there is no closing mark. -/
  | broken
  deriving DecidableEq

namespace LiteralEnd

/-- The same end with one more character read before it. -/
def before (c : Char) : LiteralEnd → LiteralEnd
  | .closed text rest => .closed (c :: text) rest
  | other => other

def closed? : LiteralEnd → Option (List Char × List Char)
  | .closed text rest => some (text, rest)
  | _ => none

end LiteralEnd

/-- Reads a template literal after its opening mark. -/
def scanLiteral : List Char → LiteralEnd
  | '\x60' :: rest => .closed [] rest
  | '$' :: '\x7b' :: rest => .interpolation rest
  | '\\' :: 'u' :: i :: j :: k :: l :: rest =>
    match hexChar? i j k l with
    | some c => (scanLiteral rest).before c
    | none => .broken
  | '\\' :: e :: rest =>
    match literalEscape? e with
    | some c => (scanLiteral rest).before c
    | none => .broken
  -- a line end is a line feed, however it is written
  | '\r' :: '\n' :: rest => (scanLiteral rest).before '\n'
  | '\r' :: rest => (scanLiteral rest).before '\n'
  | '\\' :: [] => .broken
  | c :: rest => (scanLiteral rest).before c
  | [] => .broken

/-- Reads a template literal with its opening mark. -/
def readTemplate : List Char → LiteralEnd
  | '\x60' :: s => scanLiteral s
  | _ => .broken

/-- The text of a template literal after its opening mark, and what follows the closing mark. There
is none when an interpolation opens. -/
def readLiteral (s : List Char) : Option (List Char × List Char) :=
  (scanLiteral s).closed?

/-! ## Reading to the closing mark -/

theorem hexValue?_hexDigit {n : Nat} (hn : n < 16) : Options.hexValue? (hexDigit n) = some n := by
  have h : ∀ m < 16, Options.hexValue? (hexDigit m) = some m := by decide
  exact h n hn

theorem hexChar?_control {c : Char} (hc : c.toNat < 0x20) :
    hexChar? '0' '0' (hexDigit (c.toNat / 16)) (hexDigit (c.toNat % 16)) = some c := by
  have hz : Options.hexValue? '0' = some 0 := by decide
  have h₁ := hexValue?_hexDigit (show c.toNat / 16 < 16 by omega)
  have h₂ := hexValue?_hexDigit (show c.toNat % 16 < 16 by omega)
  have hn : ((0 * 16 + 0) * 16 + c.toNat / 16) * 16 + c.toNat % 16 = c.toNat := by omega
  have hv : c.toNat.isValidChar := c.valid
  simp only [hexChar?, hz, h₁, h₂, hn]
  rw [if_pos hv, Char.ofNat_toNat]

theorem scanLiteral_plain {c : Char} (rest : List Char)
    (ht : c ≠ '\x60') (hb : c ≠ '\\') (hd : c ≠ '$') (hr : c ≠ '\r') :
    scanLiteral (c :: rest) = (scanLiteral rest).before c := by
  rw [scanLiteral.eq_def]
  split <;> simp_all

theorem scanLiteral_escape {e c : Char} (rest : List Char) (hu : e ≠ 'u')
    (he : literalEscape? e = some c) :
    scanLiteral ('\\' :: e :: rest) = (scanLiteral rest).before c := by
  rw [scanLiteral, he]
  intro _ _ _ _ _ he'
  exact absurd he' hu

/-- A character comes back from what stands for it in a literal. -/
theorem scanLiteral_literalChar (c : Char) (rest : List Char) :
    scanLiteral (literalChar c ++ rest) = (scanLiteral rest).before c := by
  by_cases hm : c = '\x60' ∨ c = '$'
  · rcases hm with rfl | rfl
    · exact scanLiteral_escape rest (by decide) (by decide)
    · exact scanLiteral_escape rest (by decide) (by decide)
  rw [not_or] at hm
  by_cases hq : c = '"'
  · subst hq
    exact scanLiteral_plain rest (by decide) (by decide) (by decide) (by decide)
  rw [show literalChar c = jsonChar c by simp [literalChar, bareChar, hm, hq]]
  rcases jsonChar_cases c with ⟨e, hmem, he⟩ | ⟨hlow, he⟩ | ⟨-, hb, hhigh, he⟩
  · have htable : ∀ p ∈ shortEscapes, p.2 ≠ 'u' ∧ literalEscape? p.2 = some p.1 := by decide
    rcases htable (c, e) hmem with ⟨hu, hc⟩
    rw [he]
    exact scanLiteral_escape rest hu hc
  · rw [he, controlEscape]
    simp only [List.cons_append, List.nil_append]
    rw [scanLiteral, hexChar?_control hlow]
  · have hr : c ≠ '\r' := by
      rintro rfl
      exact absurd hhigh (by decide)
    rw [he]
    exact scanLiteral_plain rest hm.1 hb hm.2 hr

theorem scanLiteral_flatMap (cs rest : List Char) :
    scanLiteral (cs.flatMap literalChar ++ '\x60' :: rest) = .closed cs rest := by
  induction cs with
  | nil => rw [List.flatMap_nil, List.nil_append, scanLiteral]
  | cons c cs ih =>
    rw [List.flatMap_cons, List.append_assoc, scanLiteral_literalChar, ih]
    rfl

theorem readLiteral_flatMap (cs rest : List Char) :
    readLiteral (cs.flatMap literalChar ++ '\x60' :: rest) = some (cs, rest) := by
  rw [readLiteral, scanLiteral_flatMap]
  rfl

/-- A quoted text is read up to its closing mark and no further, without an interpolation, and gives
back the text. -/
theorem readTemplate_templateLiteral (text : String) (rest : List Char) :
    readTemplate ((templateLiteral text).toList ++ rest) = .closed text.toList rest := by
  rw [toList_templateLiteral, List.cons_append, List.append_assoc, List.singleton_append]
  exact scanLiteral_flatMap text.toList rest

-- without the backslash the reader does meet an interpolation
example : readTemplate "\x60a\\$\x7b$\x7bb\x7d\x60".toList = .interpolation "b\x7d\x60".toList := by
  decide

end HtmlComponent.Text
