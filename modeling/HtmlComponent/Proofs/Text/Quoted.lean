import HtmlComponent.Proofs.Text.Spelling

/-!
# Quoted text

A template literal is made from a JSON string by three replacements over the whole text. They act on
each character alone, so the literal is that of its characters, one after another. A JSON string is
read back from left to right, up to its closing quote and no further.
-/

namespace HtmlComponent.Text

/-! ## Template literals, one character at a time -/

/-- A character of a JSON string once the double quotes are bare again. -/
def bareChar (c : Char) : List Char :=
  if c == '"' then [c] else jsonChar c

/-- A character inside a template literal. -/
def literalChar (c : Char) : List Char :=
  if c == '\x60' || c == '$' then ['\\', c] else bareChar c

def hexAlphabet : List Char := "0123456789abcdef".toList

theorem hexDigit_mem {n : Nat} (hn : n < 16) : hexDigit n ∈ hexAlphabet := by
  have h : ∀ m < 16, hexDigit m ∈ hexAlphabet := by decide
  exact h n hn

theorem hexDigit_ne {n : Nat} (hn : n < 16) {c : Char} (hc : c ∉ hexAlphabet) : hexDigit n ≠ c := by
  intro he
  exact hc (he ▸ hexDigit_mem hn)

/-- The characters that JSON escapes by one letter, with that letter. -/
def shortEscapes : List (Char × Char) :=
  [('"', '"'), ('\\', '\\'), ('\x08', 'b'), ('\t', 't'), ('\n', 'n'), ('\x0c', 'f'), ('\r', 'r')]

/-- The escape of a control character by its code. -/
def controlEscape (c : Char) : List Char :=
  ['\\', 'u', '0', '0', hexDigit (c.toNat / 16), hexDigit (c.toNat % 16)]

/-- The three ways in which a JSON string writes a character. -/
theorem jsonChar_cases (c : Char) :
    (∃ e, (c, e) ∈ shortEscapes ∧ jsonChar c = ['\\', e]) ∨
    (c.toNat < 0x20 ∧ jsonChar c = controlEscape c) ∨
    (c ≠ '"' ∧ c ≠ '\\' ∧ 0x20 ≤ c.toNat ∧ jsonChar c = [c]) := by
  unfold jsonChar
  repeat' split
  all_goals simp_all [shortEscapes, controlEscape]

theorem jsonChar_append_ne_quote (c : Char) (s t : List Char) : jsonChar c ++ s ≠ '"' :: t := by
  rcases jsonChar_cases c with ⟨e, -, he⟩ | ⟨-, he⟩ | ⟨hq, -, -, he⟩
  · simp [he]
  · simp [he, controlEscape]
  · simp [he, hq]

theorem jsonInner_ne_quote (cs t : List Char) : jsonInner cs ≠ '"' :: t := by
  cases cs with
  | nil => simp [jsonInner]
  | cons c cs =>
    rw [jsonInner, List.flatMap_cons]
    exact jsonChar_append_ne_quote c _ t

theorem unescapeQuotes_cons {c : Char} {s : List Char} (h : c ≠ '\\' ∨ ∀ t, s ≠ '"' :: t) :
    unescapeQuotes (c :: s) = c :: unescapeQuotes s := by
  rw [unescapeQuotes.eq_def]
  split
  · rename_i t he
    simp only [List.cons.injEq] at he
    rcases he with ⟨rfl, rfl⟩
    simp at h
  · rename_i d t _ he
    simp only [List.cons.injEq] at he
    rw [he.1, he.2]
  · rename_i he
    simp at he

theorem unescapeQuotes_jsonChar (c : Char) {s : List Char} (hs : ∀ t, s ≠ '"' :: t) :
    unescapeQuotes (jsonChar c ++ s) = bareChar c ++ unescapeQuotes s := by
  by_cases hq : c = '"'
  · subst hq
    simp [bareChar, jsonChar, unescapeQuotes]
  rw [show bareChar c = jsonChar c by simp [bareChar, hq]]
  rcases jsonChar_cases c with ⟨e, hmem, he⟩ | ⟨hlow, he⟩ | ⟨-, hb, -, he⟩
  · have htable : ∀ p ∈ shortEscapes, p.1 ≠ '"' → p.2 ≠ '"' := by decide
    have hne : e ≠ '"' := htable (c, e) hmem hq
    rw [he, List.cons_append, List.cons_append, List.nil_append]
    -- an escaped backslash must not pair up with a quote behind it
    rw [unescapeQuotes_cons (.inr (by simp [hne])), unescapeQuotes_cons (.inr hs)]
    rfl
  · have h₁ := hexDigit_ne (show c.toNat / 16 < 16 by omega) (show '\\' ∉ hexAlphabet by decide)
    have h₂ := hexDigit_ne (show c.toNat % 16 < 16 by omega) (show '\\' ∉ hexAlphabet by decide)
    rw [he, controlEscape]
    simp [unescapeQuotes_cons, h₁, h₂]
  · rw [he]
    exact unescapeQuotes_cons (.inl hb)

theorem unescapeQuotes_jsonInner (cs : List Char) :
    unescapeQuotes (jsonInner cs) = cs.flatMap bareChar := by
  induction cs with
  | nil => rfl
  | cons c cs ih =>
    rw [jsonInner, List.flatMap_cons, List.flatMap_cons, ← ih]
    exact unescapeQuotes_jsonChar c (jsonInner_ne_quote cs)

theorem escapeMark_of_not_mem {mark : Char} {s : List Char} (h : mark ∉ s) :
    escapeMark mark s = s := by
  induction s with
  | nil => rfl
  | cons c s ih =>
    rw [List.mem_cons, not_or] at h
    rw [escapeMark, List.flatMap_cons, if_neg (by simpa using Ne.symm h.1)]
    exact congrArg (c :: ·) (ih h.2)

theorem not_mem_bareChar {mark c : Char} (hm : mark = '\x60' ∨ mark = '$') (hc : c ≠ mark) :
    mark ∉ bareChar c := by
  have hb : mark ≠ '\\' := by rcases hm with rfl | rfl <;> decide
  have hd : mark ∉ '\\' :: 'u' :: hexAlphabet := by rcases hm with rfl | rfl <;> decide
  have ht : ∀ p ∈ shortEscapes, mark ≠ p.2 := by rcases hm with rfl | rfl <;> decide
  unfold bareChar
  split
  · simpa using Ne.symm hc
  · rcases jsonChar_cases c with ⟨e, hmem, he⟩ | ⟨hlow, he⟩ | ⟨-, -, -, he⟩
    · have hne : mark ≠ e := ht (c, e) hmem
      simp [he, hb, hne]
    · have hz : '0' ∈ hexAlphabet := by decide
      have h₁ := hexDigit_mem (show c.toNat / 16 < 16 by omega)
      have h₂ := hexDigit_mem (show c.toNat % 16 < 16 by omega)
      intro hmem
      apply hd
      simp only [he, controlEscape, List.mem_cons, List.not_mem_nil, or_false] at hmem
      simp only [List.mem_cons]
      rcases hmem with h | h | h | h | h | h <;> simp_all
    · simpa [he] using Ne.symm hc

/-- No replacement touches what an earlier one has put in. -/
theorem escapeMark_bareChar (c : Char) :
    escapeMark '$' (escapeMark '\x60' (bareChar c)) = literalChar c := by
  by_cases ht : c = '\x60'
  · subst ht; rfl
  rw [escapeMark_of_not_mem (not_mem_bareChar (.inl rfl) ht)]
  by_cases hd : c = '$'
  · subst hd; rfl
  rw [escapeMark_of_not_mem (not_mem_bareChar (.inr rfl) hd)]
  simp [literalChar, ht, hd]

theorem escapeMark_flatMap (mark : Char) (f : Char → List Char) (cs : List Char) :
    escapeMark mark (cs.flatMap f) = cs.flatMap fun c => escapeMark mark (f c) :=
  List.flatMap_assoc

/-- The three replacements as one pass over the characters. -/
theorem toList_templateLiteral (s : String) :
    (templateLiteral s).toList = '\x60' :: (s.toList.flatMap literalChar ++ ['\x60']) := by
  unfold templateLiteral
  rw [String.toList_ofList, unescapeQuotes_jsonInner, escapeMark_flatMap, escapeMark_flatMap]
  simp only [escapeMark_bareChar, List.cons_append]

/-! ## The escapes of a template literal -/

/-- The characters that a template literal escapes by one character, with that character. The double
quote is not among them. -/
def templateEscapes : List (Char × Char) :=
  [('\\', '\\'), ('\x60', '\x60'), ('$', '$'), ('\x08', 'b'), ('\t', 't'), ('\n', 'n'),
    ('\x0c', 'f'), ('\r', 'r')]

/-- How a template literal writes a character. -/
def templateChar (c : Char) : List Char :=
  match templateEscapes.lookup c with
  | some e => ['\\', e]
  | none =>
    -- the code in lower case, to two places
    if c.toNat < 0x20 then ['\\', 'u', '0', '0'] ++ (Nat.toDigits 16 c.toNat).leftpad 2 '0'
    else [c]

theorem leftpad_toDigits {n : Nat} (hn : n < 0x20) :
    (Nat.toDigits 16 n).leftpad 2 '0' = [hexDigit (n / 16), hexDigit (n % 16)] := by
  have h : ∀ m < 0x20,
      (Nat.toDigits 16 m).leftpad 2 '0' = [hexDigit (m / 16), hexDigit (m % 16)] := by
    decide
  exact h n hn

theorem literalChar_of_not_escaped {c : Char} (h : ∀ p ∈ templateEscapes, c ≠ p.1) :
    literalChar c =
      if c.toNat < 0x20 then ['\\', 'u', '0', '0'] ++ (Nat.toDigits 16 c.toNat).leftpad 2 '0'
      else [c] := by
  by_cases hquote : c = '"'
  · subst hquote
    decide
  have htick : c ≠ '\x60' := h ('\x60', '\x60') (by decide)
  have hdollar : c ≠ '$' := h ('$', '$') (by decide)
  have hjson : literalChar c = jsonChar c := by
    simp [literalChar, bareChar, htick, hdollar, hquote]
  rw [hjson]
  rcases jsonChar_cases c with ⟨e, hmem, -⟩ | ⟨hlow, he⟩ | ⟨-, -, hhigh, he⟩
  · -- of the short escapes of JSON only the double quote is missing from the table
    have htable : ∀ p ∈ shortEscapes, p.1 ≠ '"' → p ∈ templateEscapes := by decide
    exact absurd rfl (h (c, e) (htable (c, e) hmem hquote))
  · rw [he, if_pos hlow, leftpad_toDigits hlow]
    rfl
  · rw [he, if_neg (by omega)]

theorem literalChar_eq_templateChar : literalChar = templateChar := by
  funext c
  unfold templateChar
  split
  · rename_i e he
    have htable : ∀ p ∈ templateEscapes, literalChar p.1 = ['\\', p.2] := by decide
    rcases List.lookup_eq_some_iff.mp he with ⟨before, behind, hsplit, -⟩
    exact htable (c, e) (by simp [hsplit])
  · rename_i hnone
    apply literalChar_of_not_escaped
    intro p hp
    simpa using List.lookup_eq_none_iff.mp hnone p hp

/-- The three replacements put in nothing that a later one changes, and undo nothing but the escapes
of double quotes: together they write each character by the table, whatever stands around it. -/
theorem templateLiteral_eq_flatMap (text : String) :
    templateLiteral text =
      String.ofList ('\x60' :: (text.toList.flatMap templateChar ++ ['\x60'])) := by
  rw [← String.toList_inj, toList_templateLiteral, String.toList_ofList,
    literalChar_eq_templateChar]

-- the escape of a backslash is kept, though an escaped quote follows it
example : templateLiteral "\\\"$\x1f" = "\x60\\\\\"\\$\\u001f\x60" := by
  decide

/-! ## Reading a JSON string -/

theorem spelledChar_jsonChar (c : Char) : SpelledChar c (jsonChar c) := by
  rcases jsonChar_cases c with ⟨e, hmem, he⟩ | ⟨hlow, he⟩ | ⟨hquote, hslash, hhigh, he⟩
  · have htable : ∀ p ∈ shortEscapes, p ∈ letterEscapes := by decide
    rw [he]
    exact .letter (htable (c, e) hmem)
  · have hdigit : ∀ n < 16, IsHexDigit n (hexDigit n) := fun n hn => ⟨hn, .inl rfl⟩
    have hzero : IsHexDigit 0 '0' := hdigit 0 (by decide)
    have hunit := IsHexUnit.digits hzero hzero (hdigit (c.toNat / 16) (by omega))
      (hdigit (c.toNat % 16) (by omega))
    have hcode : ((0 * 16 + 0) * 16 + c.toNat / 16) * 16 + c.toNat % 16 = c.toNat := by omega
    rw [hcode] at hunit
    rw [he]
    exact .code hunit
  · rw [he]
    exact .plain hquote hslash hhigh

theorem spelled_jsonInner (cs : List Char) : Spelled cs (jsonInner cs) := by
  induction cs with
  | nil => exact .nil
  | cons c cs ih =>
    rw [jsonInner, List.flatMap_cons]
    exact .cons (spelledChar_jsonChar c) ih

theorem stringBody_jsonInner (cs rest : List Char) :
    ∃ h, Options.stringBody (jsonInner cs ++ '"' :: rest) = .ok ⟨cs, rest, h⟩ :=
  stringBody_spelled (spelled_jsonInner cs) rest

/-- Reads a JSON string with its quotes: the text that it stands for, and what follows it. -/
def readString (s : List Char) : Option (String × List Char) :=
  match s with
  | '"' :: s =>
    match Options.stringBody s with
    | .error _ => none
    | .ok taken => some (String.ofList taken.value, taken.rest)
  | _ => none

theorem readString_jsonString (s : String) (rest : List Char) :
    readString ((jsonString s).toList ++ rest) = some (s, rest) := by
  rcases stringBody_jsonInner s.toList rest with ⟨h, hread⟩
  rw [jsonString, String.toList_ofList, List.cons_append, List.cons_append, List.append_assoc,
    List.singleton_append, readString, hread]
  simp only [String.ofList_toList]

end HtmlComponent.Text
