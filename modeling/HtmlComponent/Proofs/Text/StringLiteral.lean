import HtmlComponent.Options.Token

/-!
# String literals of a module

A literal between double quotes gives a sequence of units of sixteen bits. Its characters stand for
themselves, but for the backslash, which makes an escape, the quote, which ends it, and the two
characters that end a line, which may not stand in it. An escape gives fewer units than it takes. So
a text between quotes reads as itself exactly if it has none of the four.
-/

namespace HtmlComponent.Text

open Options (hexValue? startsWithDigit)

/-! ## Units -/

/-- The units of a code point: one, or two surrogates. -/
def codeUnits (n : Nat) : List Nat :=
  if n < 0x10000 then [n]
  else [0xD800 + (n - 0x10000) / 0x400, 0xDC00 + (n - 0x10000) % 0x400]

def units (cs : List Char) : List Nat :=
  cs.flatMap fun c => codeUnits c.toNat

theorem length_codeUnits (n : Nat) : 1 ≤ (codeUnits n).length ∧ (codeUnits n).length ≤ 2 := by
  unfold codeUnits
  split <;> simp

theorem units_cons (c : Char) (cs : List Char) : units (c :: cs) = codeUnits c.toNat ++ units cs :=
  List.flatMap_cons

theorem units_append (cs ds : List Char) : units (cs ++ ds) = units cs ++ units ds :=
  List.flatMap_append

theorem length_le_length_units (cs : List Char) : cs.length ≤ (units cs).length := by
  induction cs with
  | nil => exact Nat.le_refl 0
  | cons c cs ih =>
    have hc := (length_codeUnits c.toNat).1
    rw [units_cons, List.length_append, List.length_cons]
    omega

/-! ## Escapes -/

/-- Reads so many hexadecimal digits on from the value `n`. -/
def hexRun : Nat → Nat → List Char → Option (Nat × List Char)
  | 0, n, s => some (n, s)
  | _ + 1, _, [] => none
  | count + 1, n, c :: s =>
    match hexValue? c with
    | some digit => hexRun count (n * 16 + digit) s
    | none => none

/-- Reads hexadecimal digits on from the value `n` up to the closing brace. -/
def bracedCode (n : Nat) : List Char → Option (Nat × List Char)
  | [] => none
  | c :: s =>
    if c == '\x7d' then some (n, s)
    else
      match hexValue? c with
      | some digit => if n * 16 + digit ≤ 0x10FFFF then bracedCode (n * 16 + digit) s else none
      | none => none

/-- The letters that stand for a control character, with its code. -/
def controlLetters : List (Char × Nat) :=
  [('b', 0x08), ('t', 0x09), ('n', 0x0A), ('v', 0x0B), ('f', 0x0C), ('r', 0x0D)]

/-- What a backslash and one character give: nothing at the end of a line, a control character for
its letter, and else the character. -/
def escapedUnits (c : Char) : List Nat :=
  if c == '\n' || c == '\r' || c == '\u2028' || c == '\u2029' then []
  else
    match controlLetters.lookup c with
    | some code => [code]
    | none => codeUnits c.toNat

/-- Reads an escape after its backslash. -/
def escaped : List Char → Option (List Nat × List Char)
  | [] => none
  | '\r' :: '\n' :: s => some ([], s)
  | 'x' :: s => (hexRun 2 0 s).map fun read => ([read.1], read.2)
  | 'u' :: '\x7b' :: c :: s =>
    match hexValue? c with
    | some digit => (bracedCode digit s).map fun read => (codeUnits read.1, read.2)
    | none => none
  | 'u' :: s => (hexRun 4 0 s).map fun read => ([read.1], read.2)
  | '0' :: s => if startsWithDigit s then none else some ([0], s)
  | c :: s => if c.isDigit then none else some (escapedUnits c, s)

theorem length_escapedUnits_le (c : Char) :
    (escapedUnits c).length ≤ (codeUnits c.toNat).length := by
  have hone := (length_codeUnits c.toNat).1
  unfold escapedUnits
  split
  · exact Nat.zero_le _
  · split
    · exact hone
    · exact Nat.le_refl _

theorem exists_of_hexRun {count n m : Nat} {s rest : List Char}
    (h : hexRun count n s = some (m, rest)) : ∃ digits, s = digits ++ rest := by
  induction count generalizing n s with
  | zero =>
    cases h
    exact ⟨[], rfl⟩
  | succ count ih =>
    cases s with
    | nil => cases h
    | cons c s =>
      rw [hexRun] at h
      split at h
      · rcases ih h with ⟨digits, rfl⟩
        exact ⟨c :: digits, rfl⟩
      · cases h

theorem exists_of_bracedCode {n m : Nat} {s rest : List Char}
    (h : bracedCode n s = some (m, rest)) : ∃ t, s = t ++ rest := by
  induction s generalizing n with
  | nil => cases h
  | cons c s ih =>
    rw [bracedCode] at h
    split at h
    · cases h
      exact ⟨[c], rfl⟩
    · split at h
      · split at h
        · rcases ih h with ⟨t, rfl⟩
          exact ⟨c :: t, rfl⟩
        · cases h
      · cases h

/-- An escape has at least one character behind its backslash, and gives no more units than these
characters have. -/
theorem exists_of_escaped {s rest : List Char} {us : List Nat} (h : escaped s = some (us, rest)) :
    ∃ t, s = t ++ rest ∧ 1 ≤ t.length ∧ us.length ≤ (units t).length := by
  -- but for a character that stands for itself, counting characters is enough
  have hcount : ∀ t : List Char, s = t ++ rest → 1 ≤ t.length → us.length ≤ t.length →
      ∃ t, s = t ++ rest ∧ 1 ≤ t.length ∧ us.length ≤ (units t).length :=
    fun t hs hone hle => ⟨t, hs, hone, Nat.le_trans hle (length_le_length_units t)⟩
  unfold escaped at h
  split at h
  · cases h
  · cases h
    exact hcount ['\r', '\n'] rfl (by decide) (by decide)
  · rcases Option.map_eq_some_iff.mp h with ⟨read, hread, hus⟩
    cases hus
    rcases exists_of_hexRun hread with ⟨digits, rfl⟩
    exact hcount ('x' :: digits) rfl (by simp) (by simp)
  · rename_i c s
    split at h
    · rcases Option.map_eq_some_iff.mp h with ⟨read, hread, hus⟩
      cases hus
      rcases exists_of_bracedCode hread with ⟨t, rfl⟩
      have htwo := (length_codeUnits read.1).2
      apply hcount ('u' :: '\x7b' :: c :: t) rfl (by simp)
      simp only [List.length_cons]
      omega
    · cases h
  · rcases Option.map_eq_some_iff.mp h with ⟨read, hread, hus⟩
    cases hus
    rcases exists_of_hexRun hread with ⟨digits, rfl⟩
    exact hcount ('u' :: digits) rfl (by simp) (by simp)
  · split at h
    · cases h
    · cases h
      exact hcount ['0'] rfl (by decide) (by decide)
  · rename_i c s _ _ _ _ _
    split at h
    · cases h
    · cases h
      refine ⟨[c], rfl, Nat.le_refl 1, ?_⟩
      rw [units_cons, units, List.flatMap_nil, List.append_nil]
      exact length_escapedUnits_le c

theorem length_lt_of_escaped {s rest : List Char} {us : List Nat}
    (h : escaped s = some (us, rest)) : rest.length < s.length := by
  rcases exists_of_escaped h with ⟨t, rfl, hone, -⟩
  rw [List.length_append]
  omega

/-! ## Literals -/

/-- Reads a literal after its opening quote: its units, and what is behind its closing quote. -/
def literalBody : List Char → Option (List Nat × List Char)
  | [] => none
  | c :: s =>
    if c == '"' then some ([], s)
    else if c == '\\' then
      match h : escaped s with
      | none => none
      | some (us, rest) =>
        have : rest.length < s.length := length_lt_of_escaped h
        (literalBody rest).map fun read => (us ++ read.1, read.2)
    else if c == '\n' || c == '\r' then none
    else (literalBody s).map fun read => (codeUnits c.toNat ++ read.1, read.2)
termination_by s => s.length

/-- A character that stands for itself wherever it is in a literal. -/
def IsPlain (c : Char) : Prop :=
  c ≠ '"' ∧ c ≠ '\\' ∧ c ≠ '\n' ∧ c ≠ '\r'

theorem literalBody_quote (rest : List Char) : literalBody ('"' :: rest) = some ([], rest) := by
  rw [literalBody]
  rfl

theorem literalBody_escape {s t rest : List Char} {us vs : List Nat}
    (h : escaped s = some (us, t)) (ht : literalBody t = some (vs, rest)) :
    literalBody ('\\' :: s) = some (us ++ vs, rest) := by
  rw [literalBody]
  simp only [Char.reduceBEq, Bool.false_eq_true, ↓reduceIte]
  split
  · rename_i hnone
    rw [h] at hnone
    cases hnone
  · rename_i hread
    rw [h] at hread
    cases hread
    rw [ht]
    rfl

theorem literalBody_append {cs : List Char} (h : ∀ c ∈ cs, IsPlain c) (s : List Char) :
    literalBody (cs ++ s) = (literalBody s).map fun read => (units cs ++ read.1, read.2) := by
  induction cs with
  | nil => simp [units]
  | cons c cs ih =>
    rw [List.forall_mem_cons] at h
    rcases h with ⟨⟨hquote, hslash, hfeed, hreturn⟩, hcs⟩
    rw [List.cons_append, literalBody]
    simp only [beq_iff_eq, Bool.or_eq_true, hquote, hslash, hfeed, hreturn, or_self, ↓reduceIte,
      ih hcs, Option.map_map, Function.comp_def, units_cons, List.append_assoc]

theorem literalBody_plain {cs : List Char} (h : ∀ c ∈ cs, IsPlain c) (rest : List Char) :
    literalBody (cs ++ '"' :: rest) = some (units cs, rest) := by
  rw [literalBody_append h, literalBody_quote, Option.map_some, List.append_nil]

/-- Reading a literal never makes it longer, and makes it shorter unless it is plain. -/
theorem exists_of_literalBody {s rest : List Char} {us : List Nat}
    (h : literalBody s = some (us, rest)) :
    ∃ t, s = t ++ '"' :: rest ∧ us.length ≤ (units t).length ∧
      (us.length = (units t).length → ∀ c ∈ t, IsPlain c) := by
  fun_induction literalBody s generalizing us with
  | case1 | case3 | case5 => cases h
  | case2 c s hquote =>
    cases h
    rw [beq_iff_eq] at hquote
    rw [hquote]
    exact ⟨[], rfl, Nat.le_refl 0, fun _ _ hc => absurd hc List.not_mem_nil⟩
  | case4 c s _ hslash vs left hread _ ih =>
    rcases Option.map_eq_some_iff.mp h with ⟨read, hmore, hus⟩
    cases hus
    rcases exists_of_escaped hread with ⟨e, rfl, -, he⟩
    rcases ih hmore with ⟨t, rfl, ht, -⟩
    -- the backslash gives no unit
    have hone := (length_codeUnits c.toNat).1
    refine ⟨c :: (e ++ t), by simp, ?_, ?_⟩
    · rw [units_cons, units_append]
      simp only [List.length_append]
      omega
    · intro heq
      rw [units_cons, units_append] at heq
      simp only [List.length_append] at heq
      omega
  | case6 c s hquote hslash hend ih =>
    rcases Option.map_eq_some_iff.mp h with ⟨read, hmore, hus⟩
    cases hus
    rcases ih hmore with ⟨t, rfl, ht, hplain⟩
    simp only [beq_iff_eq, Bool.or_eq_true, not_or] at hquote hslash hend
    refine ⟨c :: t, rfl, ?_, ?_⟩
    · rw [units_cons, List.length_append, List.length_append]
      omega
    · intro heq
      rw [units_cons, List.length_append, List.length_append] at heq
      rw [List.forall_mem_cons]
      exact ⟨⟨hquote, hslash, hend⟩, hplain (by omega)⟩

/-- Between quotes a text is read as itself exactly if all of it is plain. -/
theorem literalBody_eq_units_iff (cs rest : List Char) :
    literalBody (cs ++ '"' :: rest) = some (units cs, rest) ↔ ∀ c ∈ cs, IsPlain c := by
  refine ⟨?_, fun h => literalBody_plain h rest⟩
  intro h
  rcases exists_of_literalBody h with ⟨t, ht, -, hplain⟩
  rw [List.append_cancel_right ht]
  exact hplain (by rw [List.append_cancel_right ht])

end HtmlComponent.Text
