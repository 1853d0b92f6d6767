import HtmlComponent.Options.Token
import HtmlComponent.Text.Quoted

/-!
# Ways to write a JSON string

A character of a JSON string stands as it is, or is escaped by a letter, or by its code in one or
two units of four hexadecimal digits. However it is written, the reader of strings gives it back,
and it reads nothing that is written in another way. The reader that passes over strings ends at the
same place.
-/

namespace HtmlComponent

namespace Options

/-- The reader takes a value off the front of the text and leaves the rest. -/
def Takes {α : Type} {s : List Char} (read : Except Stop (Taken α s)) (value : α)
    (rest : List Char) : Prop :=
  ∃ h, read = .ok ⟨value, rest, h⟩

end Options

namespace Text

open Options

/-! ## Spellings -/

def IsHexDigit (n : Nat) (c : Char) : Prop :=
  n < 16 ∧ (c = hexDigit n ∨ c = (hexDigit n).toUpper)

/-- A number of sixteen bits by its four hexadecimal digits, of either case. -/
inductive IsHexUnit : Nat → List Char → Prop
  | digits {i j k l : Nat} {a b c d : Char} (hi : IsHexDigit i a) (hj : IsHexDigit j b)
      (hk : IsHexDigit k c) (hl : IsHexDigit l d) :
      IsHexUnit (((i * 16 + j) * 16 + k) * 16 + l) [a, b, c, d]

/-- The characters that have an escape of one letter, with that letter. -/
def letterEscapes : List (Char × Char) :=
  [('"', '"'), ('\\', '\\'), ('/', '/'), ('\x08', 'b'), ('\x0c', 'f'), ('\n', 'n'), ('\r', 'r'),
    ('\t', 't')]

/-- The ways to write a character inside a JSON string. -/
inductive SpelledChar : Char → List Char → Prop
  | plain {c : Char} (hquote : c ≠ '"') (hslash : c ≠ '\\') (hcode : 0x20 ≤ c.toNat) :
      SpelledChar c [c]
  | letter {c e : Char} (h : (c, e) ∈ letterEscapes) : SpelledChar c ['\\', e]
  | code {c : Char} {unit : List Char} (h : IsHexUnit c.toNat unit) :
      SpelledChar c ('\\' :: 'u' :: unit)
  -- a character beyond sixteen bits is a pair of surrogates
  | pair {c : Char} {high low : Nat} {unit unit' : List Char} (hhigh : high < 0x400)
      (hlow : low < 0x400) (hcode : c.toNat = 0x10000 + high * 0x400 + low)
      (h : IsHexUnit (0xD800 + high) unit) (h' : IsHexUnit (0xDC00 + low) unit') :
      SpelledChar c ('\\' :: 'u' :: unit ++ '\\' :: 'u' :: unit')

inductive Spelled : List Char → List Char → Prop
  | nil : Spelled [] []
  | cons {c : Char} {cs t s : List Char} (hc : SpelledChar c t) (hcs : Spelled cs s) :
      Spelled (c :: cs) (t ++ s)

/-! ## Escapes -/

theorem hexValue?_of_isHexDigit {n : Nat} {c : Char} (h : IsHexDigit n c) :
    hexValue? c = some n := by
  have htable : ∀ m < 16, hexValue? (hexDigit m) = some m ∧
      hexValue? (hexDigit m).toUpper = some m := by decide
  obtain ⟨hn, rfl | rfl⟩ := h
  · exact (htable n hn).1
  · exact (htable n hn).2

theorem four_le_byteCount (i j k l : Char) (s : List Char) :
    4 ≤ byteCount (i :: j :: k :: l :: s) := by
  have hi := i.utf8Size_pos
  have hj := j.utf8Size_pos
  have hk := k.utf8Size_pos
  have hl := l.utf8Size_pos
  simp only [byteCount]
  omega

theorem hexUnit_takes {n : Nat} {unit : List Char} (h : IsHexUnit n unit) (rest : List Char) :
    Takes (hexUnit (unit ++ rest)) n rest := by
  cases h with
  | @digits i j k l a b c d hi hj hk hl =>
    have hbytes := four_le_byteCount a b c d rest
    refine ⟨by simp only [List.length_append, List.length_cons]; omega, ?_⟩
    simp only [List.cons_append, List.nil_append, hexUnit, if_neg (Nat.not_lt.mpr hbytes),
      hexValue?_of_isHexDigit hi, hexValue?_of_isHexDigit hj, hexValue?_of_isHexDigit hk,
      hexValue?_of_isHexDigit hl]

theorem escape_letter {c e : Char} (h : (c, e) ∈ letterEscapes) (rest : List Char) :
    Takes (escape (e :: rest)) c rest := by
  have htable : ∀ p ∈ letterEscapes, shortEscape? p.2 = some p.1 := by decide
  have hc : shortEscape? e = some c := htable (c, e) h
  refine ⟨Nat.lt_succ_self _, ?_⟩
  simp only [escape, hc]

theorem escape_of_unicodeEscape {c : Char} {s rest : List Char}
    (h : Takes (unicodeEscape s) c rest) : Takes (escape ('u' :: s)) c rest := by
  obtain ⟨hshort, hread⟩ := h
  have hu : shortEscape? 'u' = none := by decide
  refine ⟨Nat.lt_succ_of_lt hshort, ?_⟩
  simp only [escape, hu, beq_self_eq_true, ↓reduceIte, hread]

theorem unicodeEscape_code {c : Char} {unit : List Char} (h : IsHexUnit c.toNat unit)
    (rest : List Char) : Takes (unicodeEscape (unit ++ rest)) c rest := by
  obtain ⟨hshort, hread⟩ := hexUnit_takes h rest
  -- no character has the code of a surrogate
  have hvalid : c.toNat < 0xD800 ∨ 0xDFFF < c.toNat ∧ c.toNat < 0x110000 := c.valid
  have hlow : isLowSurrogate c.toNat = false := by
    simp only [isLowSurrogate, Bool.and_eq_false_iff, decide_eq_false_iff_not]
    omega
  have hhigh : isHighSurrogate c.toNat = false := by
    simp only [isHighSurrogate, Bool.and_eq_false_iff, decide_eq_false_iff_not]
    omega
  refine ⟨hshort, ?_⟩
  simp only [unicodeEscape, hread, hlow, hhigh, Bool.false_eq_true, ↓reduceIte, Char.ofNat_toNat]

theorem lowSurrogate_takes {low : Nat} (hlow : low < 0x400) {unit : List Char}
    (h : IsHexUnit (0xDC00 + low) unit) (rest : List Char) :
    Takes (lowSurrogate ('\\' :: 'u' :: unit ++ rest)) (0xDC00 + low) rest := by
  obtain ⟨hshort, hread⟩ := hexUnit_takes h rest
  have hin : isLowSurrogate (0xDC00 + low) = true := by
    simp only [isLowSurrogate, Bool.and_eq_true, decide_eq_true_eq]
    omega
  refine ⟨by simp only [List.length_append, List.length_cons] at hshort ⊢; omega, ?_⟩
  simp only [List.cons_append, lowSurrogate, hread, hin, ↓reduceIte]

theorem unicodeEscape_pair {c : Char} {high low : Nat} (hhigh : high < 0x400)
    (hlow : low < 0x400) (hcode : c.toNat = 0x10000 + high * 0x400 + low) {unit unit' : List Char}
    (h : IsHexUnit (0xD800 + high) unit) (h' : IsHexUnit (0xDC00 + low) unit')
    (rest : List Char) :
    Takes (unicodeEscape (unit ++ ('\\' :: 'u' :: unit' ++ rest))) c rest := by
  obtain ⟨hshort, hread⟩ := hexUnit_takes h ('\\' :: 'u' :: unit' ++ rest)
  obtain ⟨hshort', hread'⟩ := lowSurrogate_takes hlow h' rest
  have hfirst : isLowSurrogate (0xD800 + high) = false := by
    simp only [isLowSurrogate, Bool.and_eq_false_iff, decide_eq_false_iff_not]
    omega
  have hsecond : isHighSurrogate (0xD800 + high) = true := by
    simp only [isHighSurrogate, Bool.and_eq_true, decide_eq_true_eq]
    omega
  have hsum : 0x10000 + (0xD800 + high - 0xD800) * 0x400 + (0xDC00 + low - 0xDC00) = c.toNat := by
    rw [hcode, Nat.add_sub_cancel_left, Nat.add_sub_cancel_left]
  refine ⟨Nat.lt_trans hshort' hshort, ?_⟩
  simp only [unicodeEscape, hread, hfirst, hsecond, Bool.false_eq_true, ↓reduceIte, hread', hsum,
    Char.ofNat_toNat]

/-! ## Strings that are read -/

theorem stringBody_plain {c : Char} (hquote : c ≠ '"') (hslash : c ≠ '\\')
    (hcode : 0x20 ≤ c.toNat) {s cs rest : List Char} (h : Takes (stringBody s) cs rest) :
    Takes (stringBody (c :: s)) (c :: cs) rest := by
  obtain ⟨hshort, hread⟩ := h
  refine ⟨Nat.lt_succ_of_lt hshort, ?_⟩
  rw [stringBody]
  simp only [beq_iff_eq, hquote, hslash, if_neg (Nat.not_lt.mpr hcode), ↓reduceIte, hread]

theorem stringBody_escape {c : Char} {t s cs rest : List Char} (hc : Takes (escape t) c s)
    (h : Takes (stringBody s) cs rest) : Takes (stringBody ('\\' :: t)) (c :: cs) rest := by
  obtain ⟨hshort, hread⟩ := hc
  obtain ⟨hshort', hread'⟩ := h
  refine ⟨Nat.lt_succ_of_lt (Nat.lt_trans hshort' hshort), ?_⟩
  rw [stringBody]
  simp only [Char.reduceBEq, Bool.false_eq_true, ↓reduceIte, beq_self_eq_true, hread, hread']

theorem stringBody_spelledChar {c : Char} {t : List Char} (hc : SpelledChar c t)
    {s cs rest : List Char} (h : Takes (stringBody s) cs rest) :
    Takes (stringBody (t ++ s)) (c :: cs) rest := by
  cases hc with
  | plain hquote hslash hcode => exact stringBody_plain hquote hslash hcode h
  | letter he => exact stringBody_escape (escape_letter he s) h
  | code hunit =>
    exact stringBody_escape (escape_of_unicodeEscape (unicodeEscape_code hunit s)) h
  | pair hhigh hlow hcode hunit hunit' =>
    have hread := unicodeEscape_pair hhigh hlow hcode hunit hunit' s
    rw [List.append_assoc]
    exact stringBody_escape (escape_of_unicodeEscape hread) h

theorem stringBody_spelled {cs t : List Char} (h : Spelled cs t) (rest : List Char) :
    Takes (stringBody (t ++ '"' :: rest)) cs rest := by
  induction h with
  | nil =>
    refine ⟨Nat.lt_succ_self _, ?_⟩
    show stringBody ('"' :: rest) = _
    rw [stringBody]
    rfl
  | cons hc _ ih =>
    rw [List.append_assoc]
    exact stringBody_spelledChar hc ih

/-! ## Nothing else is read -/

theorem toNat_lt_of_hexValue? {c : Char} {n : Nat} (h : hexValue? c = some n) : c.toNat < 103 := by
  have hletter : ∀ d : Char, d.toNat < 103 → c ≤ d → c.toNat < 103 := by
    intro d hd hle
    change c.toNat ≤ d.toNat at hle
    omega
  unfold hexValue? at h
  split at h
  · rename_i hc
    simp only [Char.isDigit, Bool.and_eq_true, decide_eq_true_eq] at hc
    exact hletter '9' (by decide) hc.2
  · split at h
    · rename_i hc
      simp only [Bool.and_eq_true, decide_eq_true_eq] at hc
      exact hletter 'f' (by decide) hc.2
    · split at h
      · rename_i hc
        simp only [Bool.and_eq_true, decide_eq_true_eq] at hc
        exact hletter 'F' (by decide) hc.2
      · cases h

theorem toNat_ofNat_of_isValidChar {n : Nat} (h : n.isValidChar) : (Char.ofNat n).toNat = n := by
  rw [Char.ofNat, dif_pos h]
  rfl

theorem mem_letterEscapes_of_shortEscape? {c e : Char} (h : shortEscape? e = some c) :
    (c, e) ∈ letterEscapes := by
  by_cases he : e ∈ letterEscapes.map Prod.snd
  · have htable : ((letterEscapes.map Prod.snd).all fun e =>
        (shortEscape? e).all fun c => letterEscapes.contains (c, e)) = true := by decide
    have hentry := List.all_eq_true.mp htable e he
    rw [h] at hentry
    simpa using hentry
  · simp only [letterEscapes, List.map_cons, List.map_nil, List.mem_cons, List.not_mem_nil,
      or_false, not_or] at he
    simp [shortEscape?, he] at h

theorem isHexDigit_of_hexValue? {c : Char} {n : Nat} (h : hexValue? c = some n) :
    IsHexDigit n c := by
  have htable : ∀ m < 103, ∀ n ∈ hexValue? (Char.ofNat m), n < 16 ∧
      (Char.ofNat m = hexDigit n ∨ Char.ofNat m = (hexDigit n).toUpper) := by decide +kernel
  have hc := htable c.toNat (toNat_lt_of_hexValue? h) n
  rw [Char.ofNat_toNat] at hc
  exact hc h

theorem IsHexUnit.lt {n : Nat} {unit : List Char} (h : IsHexUnit n unit) : n < 0x10000 := by
  cases h with
  | digits hi hj hk hl =>
    have h₁ := hi.1
    have h₂ := hj.1
    have h₃ := hk.1
    have h₄ := hl.1
    omega

theorem exists_of_hexUnit {s rest : List Char} {n : Nat} (h : Takes (hexUnit s) n rest) :
    ∃ unit, s = unit ++ rest ∧ IsHexUnit n unit := by
  rcases h with ⟨hless, h⟩
  unfold hexUnit at h
  split at h
  · cases h
  · split at h
    · split at h
      · rename_i hi hj hk hl
        cases h
        exact ⟨_, rfl, .digits (isHexDigit_of_hexValue? hi) (isHexDigit_of_hexValue? hj)
          (isHexDigit_of_hexValue? hk) (isHexDigit_of_hexValue? hl)⟩
      · cases h
    · cases h

theorem exists_of_lowSurrogate {s rest : List Char} {n : Nat}
    (h : Takes (lowSurrogate s) n rest) :
    ∃ unit, s = '\\' :: 'u' :: unit ++ rest ∧ IsHexUnit n unit ∧ isLowSurrogate n = true := by
  rcases h with ⟨hless, h⟩
  unfold lowSurrogate at h
  split at h
  · cases h
  · cases h
  · split at h
    · cases h
    · rename_i hread
      split at h
      · rename_i hlow
        rcases exists_of_hexUnit ⟨_, hread⟩ with ⟨unit, rfl, hunit⟩
        cases h
        exact ⟨unit, rfl, hunit, hlow⟩
      · cases h
  · cases h
  · cases h

theorem exists_of_unicodeEscape {s rest : List Char} {c : Char}
    (h : Takes (unicodeEscape s) c rest) :
    ∃ t, s = t ++ rest ∧ SpelledChar c ('\\' :: 'u' :: t) := by
  rcases h with ⟨hless, h⟩
  unfold unicodeEscape at h
  split at h
  · cases h
  · rename_i n left _ hread
    rcases exists_of_hexUnit ⟨_, hread⟩ with ⟨unit, rfl, hunit⟩
    have hbound := hunit.lt
    split at h
    · cases h
    · rename_i hlow
      simp only [isLowSurrogate, Bool.and_eq_true, decide_eq_true_eq] at hlow
      split at h
      · rename_i hhigh
        simp only [isHighSurrogate, Bool.and_eq_true, decide_eq_true_eq] at hhigh
        split at h
        · cases h
        · rename_i m left' _ hread'
          rcases exists_of_lowSurrogate ⟨_, hread'⟩ with ⟨unit', rfl, hunit', hlow'⟩
          simp only [isLowSurrogate, Bool.and_eq_true, decide_eq_true_eq] at hlow'
          -- the two units as offsets from where their halves start
          obtain ⟨high, rfl⟩ : ∃ high, n = 0xD800 + high := ⟨n - 0xD800, by omega⟩
          obtain ⟨low, rfl⟩ : ∃ low, m = 0xDC00 + low := ⟨m - 0xDC00, by omega⟩
          have hcode : 0x10000 + (0xD800 + high - 0xD800) * 0x400 + (0xDC00 + low - 0xDC00) =
              0x10000 + high * 0x400 + low := by
            rw [Nat.add_sub_cancel_left, Nat.add_sub_cancel_left]
          rw [hcode] at h
          cases h
          refine ⟨unit ++ '\\' :: 'u' :: unit', by simp, ?_⟩
          refine .pair (by omega) (by omega) ?_ hunit hunit'
          apply toNat_ofNat_of_isValidChar
          right
          omega
      · rename_i hhigh
        simp only [isHighSurrogate, Bool.and_eq_true, decide_eq_true_eq] at hhigh
        have hvalid : n.isValidChar := by
          unfold Nat.isValidChar
          omega
        cases h
        refine ⟨unit, rfl, .code ?_⟩
        rwa [toNat_ofNat_of_isValidChar hvalid]

theorem exists_of_escape {s rest : List Char} {c : Char} (h : Takes (escape s) c rest) :
    ∃ t, s = t ++ rest ∧ SpelledChar c ('\\' :: t) := by
  rcases h with ⟨hless, h⟩
  unfold escape at h
  split at h
  · cases h
  · rename_i e left
    split at h
    · rename_i d hshort
      cases h
      exact ⟨[e], rfl, .letter (mem_letterEscapes_of_shortEscape? hshort)⟩
    · split at h
      · rename_i he
        rw [beq_iff_eq] at he
        subst he
        split at h
        · cases h
        · rename_i hread
          rcases exists_of_unicodeEscape ⟨_, hread⟩ with ⟨t, rfl, ht⟩
          cases h
          exact ⟨'u' :: t, rfl, ht⟩
      · cases h

/-- Whatever the reader of strings takes is a spelling of what it gives, with a quote behind it. -/
theorem exists_of_stringBody {s cs rest : List Char} (h : Takes (stringBody s) cs rest) :
    ∃ t, s = t ++ '"' :: rest ∧ Spelled cs t := by
  fun_induction stringBody s generalizing cs rest with
  | case1 | case3 | case4 | case6 | case7 =>
    rcases h with ⟨_, h⟩
    cases h
  | case2 c left hquote =>
    rw [beq_iff_eq] at hquote
    subst hquote
    rcases h with ⟨_, h⟩
    cases h
    exact ⟨[], rfl, .nil⟩
  | case5 c left _ hslash d left' _ hescape ds left'' _ hbody ih =>
    rw [beq_iff_eq] at hslash
    subst hslash
    rcases h with ⟨_, h⟩
    cases h
    rcases exists_of_escape ⟨_, hescape⟩ with ⟨t, rfl, ht⟩
    rcases ih ⟨_, hbody⟩ with ⟨u, rfl, hu⟩
    refine ⟨'\\' :: t ++ u, by simp, .cons ht hu⟩
  | case8 c left hquote hslash hcode ds left' _ hbody ih =>
    rw [beq_iff_eq] at hquote hslash
    rcases h with ⟨_, h⟩
    cases h
    rcases ih ⟨_, hbody⟩ with ⟨u, rfl, hu⟩
    exact ⟨c :: u, rfl, .cons (.plain hquote hslash (Nat.not_lt.mp hcode)) hu⟩

/-! ## Strings that are passed over -/

theorem skipString_plain {c : Char} (hquote : c ≠ '"') (hslash : c ≠ '\\')
    (hcode : 0x20 ≤ c.toNat) {s rest : List Char} (h : Takes (skipString s) () rest) :
    Takes (skipString (c :: s)) () rest := by
  obtain ⟨hshort, hread⟩ := h
  refine ⟨Nat.lt_succ_of_lt hshort, ?_⟩
  rw [skipString]
  simp only [beq_iff_eq, hquote, hslash, if_neg (Nat.not_lt.mpr hcode), ↓reduceIte, hread]

theorem skipString_escape {t s rest : List Char} (ht : Takes (skipEscape t) () s)
    (h : Takes (skipString s) () rest) : Takes (skipString ('\\' :: t)) () rest := by
  obtain ⟨hshort, hread⟩ := ht
  obtain ⟨hshort', hread'⟩ := h
  refine ⟨Nat.lt_succ_of_lt (Nat.lt_trans hshort' hshort), ?_⟩
  rw [skipString]
  simp only [Char.reduceBEq, Bool.false_eq_true, ↓reduceIte, beq_self_eq_true, hread, hread']

theorem skipEscape_letter {c e : Char} (h : (c, e) ∈ letterEscapes) (rest : List Char) :
    Takes (skipEscape (e :: rest)) () rest := by
  have htable : ∀ p ∈ letterEscapes, (shortEscape? p.2).isSome = true := by decide
  have he : (shortEscape? e).isSome = true := htable (c, e) h
  refine ⟨Nat.lt_succ_self _, ?_⟩
  simp only [skipEscape, he, ↓reduceIte]

theorem skipEscape_unit {n : Nat} {unit : List Char} (h : IsHexUnit n unit) (rest : List Char) :
    Takes (skipEscape ('u' :: unit ++ rest)) () rest := by
  obtain ⟨hshort, hread⟩ := hexUnit_takes h rest
  have hu : (shortEscape? 'u').isSome = false := by decide
  refine ⟨Nat.lt_succ_of_lt hshort, ?_⟩
  simp only [List.cons_append, skipEscape, hu, Bool.false_eq_true, ↓reduceIte, beq_self_eq_true,
    hread]

theorem skipString_spelledChar {c : Char} {t : List Char} (hc : SpelledChar c t)
    {s rest : List Char} (h : Takes (skipString s) () rest) :
    Takes (skipString (t ++ s)) () rest := by
  cases hc with
  | plain hquote hslash hcode => exact skipString_plain hquote hslash hcode h
  | letter he => exact skipString_escape (skipEscape_letter he s) h
  | code hunit => exact skipString_escape (skipEscape_unit hunit s) h
  | pair _ _ _ hunit hunit' =>
    -- that the two units belong together does not matter here
    rw [List.append_assoc]
    have hsecond := skipString_escape (skipEscape_unit hunit' s) h
    exact skipString_escape (skipEscape_unit hunit _) hsecond

theorem skipString_spelled {cs t : List Char} (h : Spelled cs t) (rest : List Char) :
    Takes (skipString (t ++ '"' :: rest)) () rest := by
  induction h with
  | nil =>
    refine ⟨Nat.lt_succ_self _, ?_⟩
    show skipString ('"' :: rest) = _
    rw [skipString]
    rfl
  | cons hc _ ih =>
    rw [List.append_assoc]
    exact skipString_spelledChar hc ih

end Text

end HtmlComponent
