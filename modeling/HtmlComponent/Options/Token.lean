import HtmlComponent.Options.Number

/-!
# Tokens of written options

Readers for the pieces of a JSON text: blanks, words, strings. What a reader takes is at least one
character, so the text that it leaves is shorter.
-/

namespace HtmlComponent.Options

/-- A value read off the front of a text, with what is left of it. -/
structure Taken (α : Type) (s : List Char) where
  value : α
  rest : List Char
  shorter : rest.length < s.length

/-- What is left of a text from which something may have been read. -/
abbrev Left (s : List Char) : Type :=
  {r : List Char // r.length ≤ s.length}

theorem Taken.le {α : Type} {s : List Char} (taken : Taken α s) : taken.rest.length ≤ s.length :=
  Nat.le_of_lt taken.shorter

def Taken.left {α : Type} {s : List Char} (taken : Taken α s) : Left s :=
  ⟨taken.rest, taken.le⟩

namespace Left

/-- Nothing has been read. -/
def all (s : List Char) : Left s :=
  ⟨s, Nat.le_refl _⟩

/-- What is left of a text that is itself what is left of another. -/
def within {s t : List Char} (left : Left t) (h : t.length ≤ s.length) : Left s :=
  ⟨left.val, Nat.le_trans left.property h⟩

/-- A value read off the front of `s`, when this is left behind it of a shorter text `t`. -/
def taken {α : Type} {s t : List Char} (left : Left t) (value : α) (h : t.length < s.length) :
    Taken α s :=
  ⟨value, left.val, Nat.lt_of_le_of_lt left.property h⟩

end Left

def isGap (c : Char) : Bool :=
  c == ' ' || c == '\t' || c == '\n' || c == '\r'

/-- Drops the blanks between tokens. -/
def skipGaps (s : List Char) : List Char :=
  s.dropWhile isGap

theorem length_skipGaps_le (s : List Char) : (skipGaps s).length ≤ s.length :=
  (List.dropWhile_suffix isGap).length_le

theorem length_lt_of_skipGaps {s : List Char} {c : Char} {rest : List Char}
    (h : skipGaps s = c :: rest) : rest.length < s.length := by
  have := length_skipGaps_le s
  rwa [h] at this

theorem length_le_of_skipGaps {s : List Char} {c : Char} {rest : List Char}
    (h : skipGaps s = c :: rest) : rest.length ≤ s.length :=
  Nat.le_of_lt (length_lt_of_skipGaps h)

/-- Reads the characters of a word, one after another. -/
def word : List Char → (s : List Char) → Except Stop (Left s)
  | [], s => .ok (.all s)
  | _ :: _, [] => here .eofValue []
  | w :: ws, c :: cs =>
    if c == w then
      match word ws cs with
      | .error e => .error e
      | .ok ⟨rest, h⟩ => .ok ⟨rest, Nat.le_succ_of_le h⟩
    else ahead .expectedIdent (c :: cs)

/-! ## Strings -/

def hexValue? (c : Char) : Option Nat :=
  if c.isDigit then some (c.toNat - '0'.toNat)
  else if 'a' ≤ c && c ≤ 'f' then some (c.toNat - 'a'.toNat + 10)
  else if 'A' ≤ c && c ≤ 'F' then some (c.toNat - 'A'.toNat + 10)
  else none

/-- Reads four hexadecimal digits. -/
def hexUnit (s : List Char) : Except Stop (Taken Nat s) :=
  if byteCount s < 4 then here .eofString []
  else
    match s with
    | a :: b :: c :: d :: rest =>
      match hexValue? a, hexValue? b, hexValue? c, hexValue? d with
      | some i, some j, some k, some l =>
        .ok ⟨((i * 16 + j) * 16 + k) * 16 + l, rest, by simp only [List.length_cons]; omega⟩
      | _, _, _, _ => .error ⟨.invalidEscape, byteCount s - 4⟩
    | _ => .error ⟨.invalidEscape, byteCount s - 4⟩

def isHighSurrogate (n : Nat) : Bool :=
  0xD800 ≤ n && n ≤ 0xDBFF

def isLowSurrogate (n : Nat) : Bool :=
  0xDC00 ≤ n && n ≤ 0xDFFF

/-- Reads the second half of a surrogate pair, with its `\u`. -/
def lowSurrogate (s : List Char) : Except Stop (Taken Nat s) :=
  match s with
  | [] => here .eofString []
  | '\\' :: [] => here .eofString []
  | '\\' :: 'u' :: rest =>
    match hexUnit rest with
    | .error e => .error e
    | .ok ⟨n, rest', h⟩ =>
      if isLowSurrogate n then .ok ⟨n, rest', by simp only [List.length_cons]; omega⟩
      else here .loneSurrogate rest'
  | '\\' :: rest => ahead .unfinishedSurrogatePair rest
  | _ => ahead .unfinishedSurrogatePair s

/-- Reads the character that `\u` introduces. -/
def unicodeEscape (s : List Char) : Except Stop (Taken Char s) :=
  match hexUnit s with
  | .error e => .error e
  | .ok ⟨n, rest, h⟩ =>
    if isLowSurrogate n then here .loneSurrogate rest
    else if isHighSurrogate n then
      match lowSurrogate rest with
      | .error e => .error e
      | .ok ⟨m, rest', h'⟩ =>
        .ok ⟨Char.ofNat (0x10000 + (n - 0xD800) * 0x400 + (m - 0xDC00)), rest', by omega⟩
    else .ok ⟨Char.ofNat n, rest, h⟩

/-- What a backslash and one character stand for. -/
def shortEscape? (c : Char) : Option Char :=
  if c == '"' || c == '\\' || c == '/' then some c
  else if c == 'b' then some '\x08'
  else if c == 'f' then some '\x0c'
  else if c == 'n' then some '\n'
  else if c == 'r' then some '\r'
  else if c == 't' then some '\t'
  else none

/-- Reads an escape after its backslash. -/
def escape (s : List Char) : Except Stop (Taken Char s) :=
  match s with
  | [] => here .eofString []
  | c :: rest =>
    match shortEscape? c with
    | some d => .ok ⟨d, rest, Nat.lt_succ_self _⟩
    | none =>
      if c == 'u' then
        match unicodeEscape rest with
        | .error e => .error e
        | .ok ⟨d, rest', h⟩ => .ok ⟨d, rest', Nat.lt_succ_of_lt h⟩
      else ahead .invalidEscape s

/-- Reads a string after its opening quote. -/
def stringBody (s : List Char) : Except Stop (Taken (List Char) s) :=
  match s with
  | [] => here .eofString []
  | c :: rest =>
    if c == '"' then .ok ⟨[], rest, Nat.lt_succ_self _⟩
    else if c == '\\' then
      match escape rest with
      | .error e => .error e
      | .ok ⟨d, rest', h⟩ =>
        match stringBody rest' with
        | .error e => .error e
        | .ok ⟨ds, rest'', h'⟩ => .ok ⟨d :: ds, rest'', by simp only [List.length_cons]; omega⟩
    else if c.toNat < 0x20 then here .controlCharacter rest
    else
      match stringBody rest with
      | .error e => .error e
      | .ok ⟨ds, rest', h⟩ => .ok ⟨c :: ds, rest', Nat.lt_succ_of_lt h⟩
termination_by s.length
decreasing_by all_goals simp only [List.length_cons]; omega

/-- Reads over an escape after its backslash; which character it stands for is not looked at. -/
def skipEscape (s : List Char) : Except Stop (Taken Unit s) :=
  match s with
  | [] => here .eofString []
  | c :: rest =>
    if (shortEscape? c).isSome then .ok ⟨(), rest, Nat.lt_succ_self _⟩
    else if c == 'u' then
      match hexUnit rest with
      | .error e => .error e
      | .ok ⟨_, rest', h⟩ => .ok ⟨(), rest', Nat.lt_succ_of_lt h⟩
    else ahead .invalidEscape s

/-- Reads over a string after its opening quote. -/
def skipString (s : List Char) : Except Stop (Taken Unit s) :=
  match s with
  | [] => here .eofString []
  | c :: rest =>
    if c == '"' then .ok ⟨(), rest, Nat.lt_succ_self _⟩
    else if c == '\\' then
      match skipEscape rest with
      | .error e => .error e
      | .ok ⟨_, rest', h⟩ =>
        match skipString rest' with
        | .error e => .error e
        | .ok ⟨_, rest'', h'⟩ => .ok ⟨(), rest'', by simp only [List.length_cons]; omega⟩
    else if c.toNat < 0x20 then here .controlCharacter s
    else
      match skipString rest with
      | .error e => .error e
      | .ok ⟨_, rest', h⟩ => .ok ⟨(), rest', Nat.lt_succ_of_lt h⟩
termination_by s.length
decreasing_by all_goals simp only [List.length_cons]; omega

/-- Reads the colon between a key and its value. -/
def colon (s : List Char) : Except Stop (Taken Unit s) :=
  match h : skipGaps s with
  | [] => here .eofObject []
  | ':' :: rest =>
    .ok ⟨(), rest, length_lt_of_skipGaps h⟩
  | t => ahead .expectedColon t

end HtmlComponent.Options
