import HtmlComponent.Options.Token

/-!
# Values that are read over

The value of an unknown key may be any JSON value. It is checked for its grammar only, with the open
brackets on a stack, so its depth does not matter.
-/

namespace HtmlComponent.Options

inductive Bracket where
  | list
  | object
  deriving DecidableEq

def Bracket.closing : Bracket → Char
  | .list => ']'
  | .object => '\x7d'

/-- The text ends inside the brackets. -/
def Bracket.unclosed : Bracket → Reason
  | .list => .eofList
  | .object => .eofObject

/-- Neither a comma nor the closing bracket follows an item. -/
def Bracket.unseparated : Bracket → Reason
  | .list => .expectedListCommaOrEnd
  | .object => .expectedObjectCommaOrEnd

def dropDigits (s : List Char) : List Char :=
  s.dropWhile Char.isDigit

theorem length_dropDigits_le (s : List Char) : (dropDigits s).length ≤ s.length :=
  (List.dropWhile_suffix Char.isDigit).length_le

/-- Reads over digits, of which there has to be one. -/
def skipDigits (s : List Char) : Except Stop (Taken Unit s) :=
  match s with
  | [] => ahead .invalidNumber []
  | c :: rest =>
    if c.isDigit then .ok ⟨(), dropDigits rest, Nat.lt_succ_of_le (length_dropDigits_le rest)⟩
    else ahead .invalidNumber (c :: rest)

/-- Drops the sign that an exponent may have. -/
def dropSign (s : List Char) : List Char :=
  match s with
  | '+' :: rest => rest
  | '-' :: rest => rest
  | t => t

theorem length_dropSign_le (s : List Char) : (dropSign s).length ≤ s.length := by
  unfold dropSign
  split
  · exact Nat.le_succ _
  · exact Nat.le_succ _
  · exact Nat.le_refl _

/-- Reads over an exponent if there is one. -/
def skipExponent (s : List Char) : Except Stop (Left s) :=
  match s with
  | [] => .ok (.all [])
  | c :: rest =>
    if c == 'e' || c == 'E' then
      match skipDigits (dropSign rest) with
      | .error e => .error e
      | .ok digits => .ok (digits.left.within (Nat.le_succ_of_le (length_dropSign_le rest)))
    else .ok (.all (c :: rest))

/-- Reads over a decimal point with digits, if there is one, and an exponent. -/
def skipFraction (s : List Char) : Except Stop (Left s) :=
  match s with
  | '.' :: rest =>
    match skipDigits rest with
    | .error e => .error e
    | .ok digits =>
      match skipExponent digits.rest with
      | .error e => .error e
      | .ok left => .ok (left.within (Nat.le_succ_of_le digits.le))
  | t => skipExponent t

/-- Reads over a number after its sign. -/
def skipNumber (s : List Char) : Except Stop (Taken Unit s) :=
  match s with
  | '0' :: rest =>
    if startsWithDigit rest then ahead .invalidNumber rest
    else
      match skipFraction rest with
      | .error e => .error e
      | .ok ⟨rest', h⟩ => .ok ⟨(), rest', Nat.lt_succ_of_le h⟩
  | t =>
    match skipDigits t with
    | .error e => .error e
    | .ok digits =>
      match skipFraction digits.rest with
      | .error e => .error e
      | .ok left => .ok (left.taken () digits.shorter)

/-- What is left after the later characters of a value without parts. -/
def skippedWord {s t : List Char} (h : t.length < s.length) (r : Except Stop (Left t)) :
    Except Stop (Taken (Option Bracket) s) :=
  match r with
  | .error e => .error e
  | .ok left => .ok (left.taken none h)

/-- What is left after the later tokens of a value without parts. -/
def skippedToken {s t : List Char} (h : t.length < s.length) (r : Except Stop (Taken Unit t)) :
    Except Stop (Taken (Option Bracket) s) :=
  match r with
  | .error e => .error e
  | .ok token => .ok (token.left.taken none h)

/-- Reads over a value without parts, or over the bracket that opens one with parts. -/
def skipHead (s : List Char) : Except Stop (Taken (Option Bracket) s) :=
  match h : skipGaps s with
  | [] => ahead .eofValue []
  | c :: rest =>
    have hs : rest.length < s.length := length_lt_of_skipGaps h
    if c == 'n' then skippedWord hs (word ['u', 'l', 'l'] rest)
    else if c == 't' then skippedWord hs (word ['r', 'u', 'e'] rest)
    else if c == 'f' then skippedWord hs (word ['a', 'l', 's', 'e'] rest)
    else if c == '"' then skippedToken hs (skipString rest)
    else if c == '-' then skippedToken hs (skipNumber rest)
    else if c.isDigit then
      match skipNumber (c :: rest) with
      | .error e => .error e
      | .ok ⟨_, rest', h'⟩ => .ok ⟨none, rest', Nat.lt_of_lt_of_le h' hs⟩
    else if c == '[' then .ok ⟨some .list, rest, hs⟩
    else if c == '\x7b' then .ok ⟨some .object, rest, hs⟩
    else ahead .expectedValue (c :: rest)

/-- Reads over the key that an item of an object starts with; an item of a list has none. -/
def skipKey (bracket : Bracket) (s : List Char) : Except Stop (Left s) :=
  match bracket with
  | .list => .ok (.all s)
  | .object =>
    match h : skipGaps s with
    | [] => ahead .eofObject []
    | '"' :: rest =>
      match skipString rest with
      | .error e => .error e
      | .ok key =>
        match colon key.rest with
        | .error e => .error e
        | .ok mark => .ok ((mark.left.within key.le).within (length_le_of_skipGaps h))
    | t => ahead .keyMustBeString t

/-- What is left of a later text is left of an earlier one. -/
def shorten {s t : List Char} (h : t.length ≤ s.length) (r : Except Stop (Left t)) :
    Except Stop (Left s) :=
  match r with
  | .error e => .error e
  | .ok left => .ok (left.within h)

/-- What may come next while values are read over. -/
inductive Due where
  /-- A value. -/
  | value
  /-- The first item of the innermost brackets, or their end. -/
  | first
  /-- What follows a value: a comma or the end of the innermost brackets. -/
  | next

def Due.rank : Due → Nat
  | .first => 1
  | _ => 0

/-- Reads on until all open brackets, innermost first, are closed. -/
def skipFrom (due : Due) (brackets : List Bracket) (s : List Char) : Except Stop (Left s) :=
  match due, brackets with
  | .value, brackets =>
    match skipHead s with
    | .error e => .error e
    | .ok ⟨none, rest, h⟩ => shorten (Nat.le_of_lt h) (skipFrom .next brackets rest)
    | .ok ⟨some bracket, rest, h⟩ =>
      shorten (Nat.le_of_lt h) (skipFrom .first (bracket :: brackets) rest)
  | .first, bracket :: outer =>
    match h : skipGaps s with
    | [] => ahead bracket.unclosed []
    | c :: rest =>
      have hs : rest.length < s.length := length_lt_of_skipGaps h
      if c == bracket.closing then shorten (Nat.le_of_lt hs) (skipFrom .next outer rest)
      else
        match skipKey bracket (c :: rest) with
        | .error e => .error e
        | .ok ⟨rest', h'⟩ =>
          have hs' : rest'.length ≤ s.length := Nat.le_trans h' hs
          shorten hs' (skipFrom .value (bracket :: outer) rest')
  | .next, bracket :: outer =>
    match h : skipGaps s with
    | [] => ahead bracket.unclosed []
    | c :: rest =>
      have hs : rest.length < s.length := length_lt_of_skipGaps h
      if c == ',' then
        match skipKey bracket rest with
        | .error e => .error e
        | .ok ⟨rest', h'⟩ =>
          have hs' : rest'.length < s.length := Nat.lt_of_le_of_lt h' hs
          shorten (Nat.le_of_lt hs') (skipFrom .value (bracket :: outer) rest')
      else if c == bracket.closing then shorten (Nat.le_of_lt hs) (skipFrom .next outer rest)
      else ahead bracket.unseparated (c :: rest)
  | _, [] => .ok (.all s)
termination_by 2 * s.length + due.rank
decreasing_by all_goals simp only [Due.rank]; omega

/-- Reads over one value. -/
def skipValue (s : List Char) : Except Stop (Left s) :=
  skipFrom .value [] s

end HtmlComponent.Options
