import HtmlComponent.Proofs.Json.Tokens

/-!
# Values that are read over are read to their end

The reader that passes over values keeps the open brackets on a stack. Whatever value it is given,
with whatever blanks, it comes out right behind it with the stack that it went in with.
-/

namespace HtmlComponent.Options

open Json (Token Spaced)

/-- What a reader leaves of the text. -/
def left? {s : List Char} (read : Except Stop (Left s)) : Option (List Char) :=
  match read with
  | .error _ => none
  | .ok rest => some rest.val

theorem exists_of_left? {s rest : List Char} {read : Except Stop (Left s)}
    (h : left? read = some rest) : ∃ hle, read = .ok ⟨rest, hle⟩ := by
  cases read with
  | error e => cases h
  | ok taken =>
    cases h
    exact ⟨taken.2, rfl⟩

@[simp]
theorem left?_shorten {s t : List Char} (h : t.length ≤ s.length) (read : Except Stop (Left t)) :
    left? (shorten h read) = left? read := by
  cases read <;> rfl

theorem left?_word (letters rest : List Char) :
    left? (word letters (letters ++ rest)) = some rest := by
  induction letters with
  | nil => rfl
  | cons c letters ih =>
    obtain ⟨hle, hread⟩ := exists_of_left? ih
    simp only [List.cons_append, word, beq_self_eq_true, ↓reduceIte, hread]
    rfl

theorem eq_of_left?_word {letters s rest : List Char} (h : left? (word letters s) = some rest) :
    s = letters ++ rest := by
  induction letters generalizing s with
  | nil => exact Option.some.inj h
  | cons c letters ih =>
    cases s with
    | nil => cases h
    | cons d s =>
      rw [word] at h
      by_cases hd : d = c
      · simp only [hd, beq_self_eq_true, ↓reduceIte] at h
        have htail : left? (word letters s) = some rest := by
          rw [← h]
          cases word letters s <;> rfl
        rw [hd, ih htail, List.cons_append]
      · simp only [beq_eq_false_iff_ne.mpr hd, Bool.false_eq_true, ↓reduceIte] at h
        cases h

/-! ## Numbers -/

/-- The text does not go on as a number. -/
def EndsNumber (s : List Char) : Prop :=
  ∀ c ∈ s.head?, c.isDigit = false ∧ c ≠ '.' ∧ c ≠ 'e' ∧ c ≠ 'E'

theorem EndsNumber.startsWithDigit {s : List Char} (h : EndsNumber s) :
    startsWithDigit s = false := by
  cases s with
  | nil => rfl
  | cons c s => exact (h c rfl).1

theorem EndsNumber.skipFraction {s : List Char} (h : EndsNumber s) :
    left? (skipFraction s) = some s := by
  cases s with
  | nil => rfl
  | cons c s =>
    obtain ⟨-, hpoint, he, hE⟩ := h c rfl
    have hexp : (c == 'e' || c == 'E') = false := by simp [he, hE]
    have hnone : Options.skipFraction (c :: s) = skipExponent (c :: s) := by
      rw [Options.skipFraction]
      intro rest heq
      exact hpoint (List.head_eq_of_cons_eq heq)
    rw [hnone]
    simp only [skipExponent, hexp, Bool.false_eq_true, ↓reduceIte]
    rfl

theorem dropDigits_append {digits rest : List Char} (hdigits : ∀ c ∈ digits, c.isDigit = true)
    (hrest : startsWithDigit rest = false) : dropDigits (digits ++ rest) = rest := by
  unfold dropDigits
  rw [List.dropWhile_append_of_pos hdigits]
  cases rest with
  | nil => rfl
  | cons c rest => exact List.dropWhile_cons_of_neg (by simpa [startsWithDigit] using hrest)

theorem toDigits_head_ne_zero {n : Nat} (hn : 0 < n) (rest : List Char) :
    Nat.toDigits 10 n ≠ '0' :: rest := by
  induction n using Nat.strongRecOn generalizing rest with
  | ind n ih =>
    rw [Nat.toDigits_eq_if (by decide)]
    split
    · rename_i hlt
      have htable : ∀ m < 10, 0 < m → m.digitChar ≠ '0' := by decide
      intro heq
      exact htable n hlt hn (List.head_eq_of_cons_eq heq)
    · -- the first digit is that of the number without its last digit
      have hpos : 0 < n / 10 := by omega
      have hless : n / 10 < n := by omega
      obtain ⟨c, cs, hcs, -⟩ := Json.exists_toDigits_eq_cons (n / 10)
      intro heq
      rw [hcs, List.cons_append] at heq
      rw [List.head_eq_of_cons_eq heq] at hcs
      exact ih (n / 10) hless hpos cs hcs

theorem skipNumber_toDigits (n : Nat) {rest : List Char} (h : EndsNumber rest) :
    Takes (skipNumber (Nat.toDigits 10 n ++ rest)) () rest := by
  obtain ⟨hle, hfraction⟩ := exists_of_left? h.skipFraction
  rcases Nat.eq_zero_or_pos n with rfl | hn
  · rw [Nat.toDigits_zero]
    refine ⟨Nat.lt_succ_self _, ?_⟩
    simp only [List.cons_append, List.nil_append, skipNumber, h.startsWithDigit, hfraction,
      Bool.false_eq_true, ↓reduceIte]
  · have hdigits : ∀ c ∈ Nat.toDigits 10 n, c.isDigit = true := fun _ hc =>
      Json.isDigit_of_mem_toDigits hc
    have hzero := toDigits_head_ne_zero hn
    obtain ⟨c, cs, hcs, -⟩ := Json.exists_toDigits_eq_cons n
    rw [hcs] at hdigits hzero ⊢
    rw [List.forall_mem_cons] at hdigits
    have hless : rest.length < (c :: cs ++ rest).length := by
      simp only [List.length_append, List.length_cons]
      omega
    have hread : skipDigits (c :: cs ++ rest) = .ok ⟨(), rest, hless⟩ := by
      simp only [List.cons_append, skipDigits, hdigits.1, ↓reduceIte,
        dropDigits_append hdigits.2 h.startsWithDigit]
    refine ⟨hless, ?_⟩
    rw [skipNumber]
    · simp only [hread, hfraction]
      rfl
    · intro _ heq
      exact hzero cs (congrArg (· :: cs) (List.head_eq_of_cons_eq heq))

/-! ## One token -/

variable {s rest : List Char} {bracket : Bracket} {brackets outer : List Bracket}

theorem ne_of_isDigit {c d : Char} (hc : c.isDigit = true) (hd : d.isDigit = false) : c ≠ d := by
  rintro rfl
  rw [hc] at hd
  cases hd

/-- The bracket that a token opens. -/
def bracket? : Token → Option Bracket
  | .opens bracket => some bracket
  | _ => none

def startsValue : Token → Bool
  | .closes _ | .comma | .colon => false
  | _ => true

theorem skippedWord_word (letters : List Char) (h : (letters ++ rest).length < s.length)
    (hless : rest.length < s.length) :
    skippedWord h (word letters (letters ++ rest)) = .ok ⟨none, rest, hless⟩ := by
  obtain ⟨hle, hread⟩ := exists_of_left? (left?_word letters rest)
  simp only [skippedWord, hread]
  rfl

theorem skippedToken_eq {t : List Char} {read : Except Stop (Taken Unit t)}
    (hread : Takes read () rest) (h : t.length < s.length) (hless : rest.length < s.length) :
    skippedToken h read = .ok ⟨none, rest, hless⟩ := by
  obtain ⟨hle, rfl⟩ := hread
  rfl

theorem skipHead_written {token : Token} {t : List Char} (ht : token.Written t)
    (hvalue : startsValue token = true) (hrest : ∀ n, token = .int n → EndsNumber rest)
    (h : skipGaps s = t ++ rest) :
    Takes (skipHead s) (bracket? token) rest := by
  have hless : rest.length < s.length := by
    obtain ⟨c, cs, rfl, -⟩ := ht.exists_head
    have hle := length_skipGaps_le s
    rw [h] at hle
    simp only [List.length_append, List.length_cons] at hle
    omega
  refine ⟨hless, ?_⟩
  unfold skipHead
  split
  · rename_i heq
    obtain ⟨c, cs, rfl, -⟩ := ht.exists_head
    rw [h] at heq
    cases heq
  · rename_i c u hgaps
    have hs := length_lt_of_skipGaps hgaps
    have heq := h.symm.trans hgaps
    cases ht with
    | closes | comma | colon => cases hvalue
    | opens bracket =>
      cases bracket <;>
      · obtain ⟨rfl, rfl⟩ := List.cons.inj heq
        rfl
    | null =>
      obtain ⟨rfl, rfl⟩ := List.cons.inj heq
      exact skippedWord_word ['u', 'l', 'l'] hs hless
    | yes =>
      obtain ⟨rfl, rfl⟩ := List.cons.inj heq
      exact skippedWord_word ['r', 'u', 'e'] hs hless
    | no =>
      obtain ⟨rfl, rfl⟩ := List.cons.inj heq
      exact skippedWord_word ['a', 'l', 's', 'e'] hs hless
    | string hspelled =>
      obtain ⟨rfl, rfl⟩ := List.cons.inj heq
      have hread := Text.skipString_spelled hspelled rest
      rw [List.append_cons] at hread
      exact skippedToken_eq hread hs hless
    | minus n =>
      obtain ⟨rfl, rfl⟩ := List.cons.inj heq
      exact skippedToken_eq (skipNumber_toDigits n (hrest _ rfl)) hs hless
    | whole n =>
      have hdigit : c.isDigit = true := by
        obtain ⟨d, ds, hds, hd⟩ := Json.exists_toDigits_eq_cons n
        rw [hds] at heq
        exact List.head_eq_of_cons_eq heq ▸ hd
      -- a digit is none of the marks that are tried before it
      have hne : ∀ d, d.isDigit = false → (c == d) = false := fun d hd =>
        beq_eq_false_iff_ne.mpr (ne_of_isDigit hdigit hd)
      have hread := skipNumber_toDigits n (hrest _ rfl)
      rw [heq] at hread
      obtain ⟨hle, hread⟩ := hread
      simp only [hne 'n' (by decide), hne 't' (by decide), hne 'f' (by decide),
        hne '"' (by decide), hne '-' (by decide), hdigit, Bool.false_eq_true, ↓reduceIte, hread,
        bracket?]

theorem colon_spaced {tokens : List Token} (h : Spaced (.colon :: tokens) s) :
    ∃ rest, Takes (colon s) () rest ∧ Spaced tokens rest := by
  obtain ⟨rest, hrest, hgaps⟩ := h.skipGaps_mark rfl
  refine ⟨rest, ⟨length_lt_of_skipGaps hgaps, ?_⟩, hrest⟩
  unfold colon
  split
  · rename_i heq
    rw [hgaps] at heq
    cases heq
  · rename_i t heq
    rw [hgaps] at heq
    cases heq
    rfl
  · rename_i hne
    exact absurd hgaps (hne rest)

theorem skipKey_spaced {key : String} {tokens : List Token}
    (h : Spaced (.string key :: .colon :: tokens) s) :
    ∃ rest, left? (skipKey .object s) = some rest ∧ Spaced tokens rest := by
  obtain ⟨_, u, ht, hu, hgaps⟩ := h.skipGaps_cons
  obtain ⟨rest, ⟨_, hcolon⟩, hrest⟩ := colon_spaced hu
  refine ⟨rest, ?_, hrest⟩
  cases ht with
  | @string _ t hspelled =>
    obtain ⟨_, hstring⟩ := Text.skipString_spelled hspelled u
    unfold skipKey
    simp only
    split
    · rename_i heq
      rw [hgaps] at heq
      cases heq
    · rename_i v heq
      have hv : v = t ++ '"' :: u := by
        rw [hgaps] at heq
        rw [List.append_cons]
        exact (List.tail_eq_of_cons_eq heq).symm
      subst hv
      simp only [hstring, hcolon]
      rfl
    · rename_i hne
      exact absurd hgaps (hne _)

/-! ## Steps of the reader -/

theorem skipFrom_value_none (h : Takes (skipHead s) none rest) :
    left? (skipFrom .value brackets s) = left? (skipFrom .next brackets rest) := by
  obtain ⟨hless, hread⟩ := h
  rw [skipFrom]
  simp only [hread, left?_shorten]

theorem skipFrom_value_some (h : Takes (skipHead s) (some bracket) rest) :
    left? (skipFrom .value brackets s) = left? (skipFrom .first (bracket :: brackets) rest) := by
  obtain ⟨hless, hread⟩ := h
  rw [skipFrom]
  simp only [hread, left?_shorten]

theorem left?_skipFrom_first {c : Char} (h : skipGaps s = c :: rest) :
    left? (skipFrom .first (bracket :: outer) s) =
      if c == bracket.closing then left? (skipFrom .next outer rest)
      else (left? (skipKey bracket (c :: rest))).bind fun start =>
        left? (skipFrom .value (bracket :: outer) start) := by
  rw [skipFrom.eq_def .first]
  simp only
  split
  · rename_i heq
    rw [h] at heq
    cases heq
  · rename_i d t heq
    rw [h] at heq
    cases heq
    split
    · rw [left?_shorten]
    · cases skipKey bracket (c :: rest) with
      | error e => rfl
      | ok start => exact left?_shorten _ _

theorem left?_skipFrom_next {c : Char} (h : skipGaps s = c :: rest) :
    left? (skipFrom .next (bracket :: outer) s) =
      if c == ',' then (left? (skipKey bracket rest)).bind fun start =>
        left? (skipFrom .value (bracket :: outer) start)
      else if c == bracket.closing then left? (skipFrom .next outer rest)
      else none := by
  rw [skipFrom.eq_def .next]
  simp only
  split
  · rename_i heq
    rw [h] at heq
    cases heq
  · rename_i d t heq
    rw [h] at heq
    cases heq
    split
    · cases skipKey bracket rest with
      | error e => rfl
      | ok start => exact left?_shorten _ _
    · split
      · rw [left?_shorten]
      · rfl

theorem left?_skipFrom_nil : left? (skipFrom .next [] s) = some s := by
  rw [skipFrom]
  · rfl
  · rintro ⟨⟩

/-! ## Whole values -/

/-- What may follow a value: the end of the text, a comma or a closing bracket. -/
def FollowsValue (later : List Token) : Prop :=
  ∀ token ∈ later.head?, token = .comma ∨ ∃ bracket, token = .closes bracket

theorem FollowsValue.endsNumber {later : List Token} (hlater : FollowsValue later)
    (h : Spaced later s) : EndsNumber s := by
  have hgap : ∀ c, isGap c = true → c.isDigit = false ∧ c ≠ '.' ∧ c ≠ 'e' ∧ c ≠ 'E' := by
    intro c hc
    obtain rfl | rfl | rfl | rfl := Json.isGap_eq_true_iff.mp hc <;> decide
  intro c hc
  cases h with
  | blank hblank => exact hgap c (hblank c (List.mem_of_mem_head? hc))
  | @token gap t rest token _ hblank ht _ =>
    cases gap with
    | cons d gap =>
      obtain rfl : d = c := Option.some.inj hc
      exact hgap d (hblank d List.mem_cons_self)
    | nil =>
      obtain rfl | ⟨bracket, rfl⟩ := hlater token rfl
      · cases ht
        obtain rfl : ',' = c := Option.some.inj hc
        decide
      · cases ht
        obtain rfl : bracket.closing = c := Option.some.inj hc
        cases bracket <;> decide

/-- The reader passes over these tokens as over one value, whatever brackets are open. -/
def PassesValue (tokens : List Token) : Prop :=
  ∀ (later : List Token) (s : List Char) (brackets : List Bracket), FollowsValue later →
    Spaced (tokens ++ later) s → ∃ rest, Spaced later rest ∧
      left? (skipFrom .value brackets s) = left? (skipFrom .next brackets rest)

/-- The same of an item, which has a key in front of its value if the brackets are those of an
object. -/
structure PassesItem (bracket : Bracket) (tokens : List Token) : Prop where
  head : ∃ token more, tokens = token :: more ∧ startsValue token = true
  passes : ∀ (later : List Token) (s : List Char) (brackets : List Bracket), FollowsValue later →
    Spaced (tokens ++ later) s → ∃ start rest, left? (skipKey bracket s) = some start ∧
      Spaced later rest ∧
      left? (skipFrom .value brackets start) = left? (skipFrom .next brackets rest)

theorem passesValue_token {token : Token} (hvalue : startsValue token = true)
    (hbracket : bracket? token = none) : PassesValue [token] := by
  intro later s brackets hlater h
  obtain ⟨t, rest, ht, hrest, hgaps⟩ := h.skipGaps_cons
  have hread := skipHead_written ht hvalue (fun _ _ => hlater.endsNumber hrest) hgaps
  rw [hbracket] at hread
  exact ⟨rest, hrest, skipFrom_value_none hread⟩

theorem followsValue_items {items : List (List Token)} {later : List Token} :
    FollowsValue (items.flatMap (.comma :: ·) ++ .closes bracket :: later) := by
  intro token htoken
  cases items with
  | nil => exact .inr ⟨bracket, (Option.some.inj htoken).symm⟩
  | cons _ _ => exact .inl (Option.some.inj htoken).symm

theorem skipFrom_next_items {items : List (List Token)}
    (hitems : ∀ item ∈ items, PassesItem bracket item) {later : List Token}
    (h : Spaced (items.flatMap (.comma :: ·) ++ .closes bracket :: later) s) :
    ∃ rest, Spaced later rest ∧
      left? (skipFrom .next (bracket :: outer) s) = left? (skipFrom .next outer rest) := by
  induction items generalizing s with
  | nil =>
    obtain ⟨rest, hrest, hgaps⟩ := h.skipGaps_mark rfl
    have hcomma : (bracket.closing == ',') = false := by cases bracket <;> rfl
    refine ⟨rest, hrest, ?_⟩
    rw [left?_skipFrom_next hgaps]
    simp only [hcomma, Bool.false_eq_true, ↓reduceIte, beq_self_eq_true]
  | cons item items ih =>
    rw [List.forall_mem_cons] at hitems
    rw [List.flatMap_cons, List.append_assoc] at h
    obtain ⟨atItem, hitem, hgaps⟩ := h.skipGaps_mark rfl
    obtain ⟨start, next, hkey, hnext, hvalue⟩ :=
      hitems.1.passes _ _ (bracket :: outer) followsValue_items hitem
    obtain ⟨rest, hrest, hread⟩ := ih hitems.2 hnext
    refine ⟨rest, hrest, ?_⟩
    rw [left?_skipFrom_next hgaps, hkey]
    exact hvalue.trans hread

theorem ne_closing {token : Token} (hvalue : startsValue token = true) {c : Char}
    (hc : token.starts c = true) (bracket : Bracket) : c ≠ bracket.closing := by
  rintro rfl
  cases token with
  | closes | comma | colon => cases hvalue
  | opens other => cases other <;> cases bracket <;> cases hc
  | bool value => cases value <;> cases bracket <;> cases hc
  | null | int _ | string _ => cases bracket <;> cases hc

/-- The first item has no comma before it, and there may be none at all. -/
theorem skipFrom_first_items {items : List (List Token)}
    (hitems : ∀ item ∈ items, PassesItem bracket item) {later : List Token}
    (h : Spaced ([.comma].intercalate items ++ .closes bracket :: later) s) :
    ∃ rest, Spaced later rest ∧
      left? (skipFrom .first (bracket :: outer) s) = left? (skipFrom .next outer rest) := by
  cases items with
  | nil =>
    obtain ⟨rest, hrest, hgaps⟩ := h.skipGaps_mark rfl
    refine ⟨rest, hrest, ?_⟩
    rw [left?_skipFrom_first hgaps]
    simp only [beq_self_eq_true, ↓reduceIte]
  | cons item items =>
    rw [List.forall_mem_cons] at hitems
    rw [Json.intercalate_comma_cons, List.append_assoc] at h
    obtain ⟨token, more, rfl, hvalue⟩ := hitems.1.head
    obtain ⟨t, u, ht, hu, hgaps⟩ := h.skipGaps_cons
    -- the blanks are gone before the item is read
    have hitem : Spaced (token :: more ++ _) (t ++ u) := .tight ht hu
    obtain ⟨start, next, hkey, hnext, hread⟩ :=
      hitems.1.passes _ _ (bracket :: outer) followsValue_items hitem
    obtain ⟨rest, hrest, hlast⟩ := skipFrom_next_items hitems.2 hnext
    obtain ⟨c, cs, rfl, hc⟩ := ht.exists_head
    refine ⟨rest, hrest, ?_⟩
    rw [left?_skipFrom_first hgaps, if_neg (by simpa using ne_closing hvalue hc bracket)]
    rw [List.cons_append] at hkey
    exact (congrArg (Option.bind · _) hkey).trans (hread.trans hlast)

theorem passesValue_enclosed {items : List (List Token)}
    (hitems : ∀ item ∈ items, PassesItem bracket item) :
    PassesValue (.opens bracket :: ([.comma].intercalate items ++ [.closes bracket])) := by
  intro later s brackets _ h
  rw [List.cons_append, List.append_assoc] at h
  obtain ⟨t, inside, ht, hinside, hgaps⟩ := h.skipGaps_cons
  have hread := skipHead_written ht rfl (fun _ hint => by cases hint) hgaps
  obtain ⟨rest, hrest, hitems⟩ := skipFrom_first_items hitems hinside
  exact ⟨rest, hrest, (skipFrom_value_some hread).trans hitems⟩

theorem passesItem_value {value : Json} (h : PassesValue value.tokens) :
    PassesItem .list value.tokens where
  head := by
    cases value <;> exact ⟨_, _, rfl, rfl⟩
  passes later s brackets hlater hs := by
    obtain ⟨rest, hrest, hread⟩ := h later s brackets hlater hs
    exact ⟨s, rest, rfl, hrest, hread⟩

theorem passesItem_member {member : String × Json} (h : PassesValue member.2.tokens) :
    PassesItem .object (Json.memberTokensOf member) where
  head := ⟨_, _, rfl, rfl⟩
  passes later s brackets hlater hs := by
    obtain ⟨start, hkey, hstart⟩ := skipKey_spaced hs
    obtain ⟨rest, hrest, hread⟩ := h later start brackets hlater hstart
    exact ⟨start, rest, hkey, hrest, hread⟩

theorem passesValue_tokens (value : Json) : PassesValue value.tokens := by
  induction value using Json.induction with
  | null | bool _ | int _ | string _ => exact passesValue_token rfl rfl
  | array items ih =>
    rw [Json.tokens, Json.itemTokens_eq_map]
    apply passesValue_enclosed
    simp only [List.forall_mem_map]
    exact fun item hitem => passesItem_value (ih item hitem)
  | object members ih =>
    rw [Json.tokens, Json.memberTokens_eq_map]
    apply passesValue_enclosed
    simp only [List.forall_mem_map]
    exact fun member hmember => passesItem_member (ih member hmember)

/-- A value with blanks anywhere between its tokens is read over to its end and no further. -/
theorem skipValue_spaced {value : Json} {later : List Token} (hlater : FollowsValue later)
    (h : Spaced (value.tokens ++ later) s) :
    ∃ rest, left? (skipValue s) = some rest ∧ Spaced later rest := by
  obtain ⟨rest, hrest, hread⟩ := passesValue_tokens value later s [] hlater h
  exact ⟨rest, hread.trans left?_skipFrom_nil, hrest⟩

end HtmlComponent.Options
