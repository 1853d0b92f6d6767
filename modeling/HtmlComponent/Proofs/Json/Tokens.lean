import Mathlib.Data.List.TakeWhile
import HtmlComponent.Options.Skip
import HtmlComponent.Proofs.Json

/-!
# The tokens of a JSON text

A value is a sequence of tokens, and a text of it has the tokens in this order with any blanks
around them. The compact text is the one without blanks.
-/

namespace HtmlComponent

def Options.Bracket.opening : Bracket → Char
  | .list => '['
  | .object => '\x7b'

namespace Json

open Options (Bracket isGap skipGaps)

inductive Token where
  | opens (bracket : Bracket)
  | closes (bracket : Bracket)
  | comma
  | colon
  | null
  | bool (value : Bool)
  | int (value : Int)
  | string (value : String)

/-- The ways to write a token. -/
inductive Token.Written : Token → List Char → Prop
  | opens (bracket : Bracket) : Written (.opens bracket) [bracket.opening]
  | closes (bracket : Bracket) : Written (.closes bracket) [bracket.closing]
  | comma : Written .comma [',']
  | colon : Written .colon [':']
  | null : Written .null ['n', 'u', 'l', 'l']
  | yes : Written (.bool true) ['t', 'r', 'u', 'e']
  | no : Written (.bool false) ['f', 'a', 'l', 's', 'e']
  | whole (n : Nat) : Written (.int n) (Nat.toDigits 10 n)
  -- zero may have a minus too
  | minus (n : Nat) : Written (.int (-n)) ('-' :: Nat.toDigits 10 n)
  | string {value : String} {t : List Char} (h : Text.Spelled value.toList t) :
      Written (.string value) ('"' :: (t ++ ['"']))

mutual

def tokens : Json → List Token
  | .null => [.null]
  | .bool value => [.bool value]
  | .int value => [.int value]
  | .string value => [.string value]
  | .array items => .opens .list :: ([.comma].intercalate (itemTokens items) ++ [.closes .list])
  | .object members =>
    .opens .object :: ([.comma].intercalate (memberTokens members) ++ [.closes .object])

def itemTokens : List Json → List (List Token)
  | [] => []
  | item :: rest => item.tokens :: itemTokens rest

def memberTokens : List (String × Json) → List (List Token)
  | [] => []
  | (key, value) :: rest => (.string key :: .colon :: value.tokens) :: memberTokens rest

end

/-- A text that has these tokens, with blanks before, between and behind them. -/
inductive Spaced : List Token → List Char → Prop
  | blank {gap : List Char} (h : ∀ c ∈ gap, isGap c = true) : Spaced [] gap
  | token {gap t rest : List Char} {token : Token} {tokens : List Token}
      (hgap : ∀ c ∈ gap, isGap c = true) (ht : token.Written t) (hrest : Spaced tokens rest) :
      Spaced (token :: tokens) (gap ++ (t ++ rest))

theorem Spaced.tight {token : Token} {tokens : List Token} {t rest : List Char}
    (ht : token.Written t) (hrest : Spaced tokens rest) : Spaced (token :: tokens) (t ++ rest) :=
  .token (fun _ hc => absurd hc List.not_mem_nil) ht hrest

theorem Spaced.behind {gap rest : List Char} {tokens : List Token}
    (hgap : ∀ c ∈ gap, isGap c = true) (h : Spaced tokens rest) : Spaced tokens (gap ++ rest) := by
  cases h with
  | blank hgap' => exact .blank (List.forall_mem_append.mpr ⟨hgap, hgap'⟩)
  | token hgap' ht hrest =>
    rw [← List.append_assoc]
    exact .token (List.forall_mem_append.mpr ⟨hgap, hgap'⟩) ht hrest

theorem itemTokens_eq_map (items : List Json) : itemTokens items = items.map tokens := by
  induction items with
  | nil => rfl
  | cons item rest ih => rw [itemTokens, ih, List.map_cons]

def memberTokensOf (member : String × Json) : List Token :=
  .string member.1 :: .colon :: member.2.tokens

theorem memberTokens_eq_map (members : List (String × Json)) :
    memberTokens members = members.map memberTokensOf := by
  induction members with
  | nil => rfl
  | cons member rest ih =>
    obtain ⟨key, value⟩ := member
    rw [memberTokens, ih, List.map_cons, memberTokensOf]

/-- After the first of several items there is a comma before each. -/
theorem intercalate_comma_cons (item : List Token) (rest : List (List Token)) :
    [Token.comma].intercalate (item :: rest) = item ++ rest.flatMap (.comma :: ·) := by
  induction rest generalizing item with
  | nil => rw [List.intercalate_singleton, List.flatMap_nil, List.append_nil]
  | cons next rest ih =>
    rw [List.intercalate_cons_cons, ih, List.flatMap_cons, List.append_assoc]
    rfl

/-! ## The first character of a token -/

/-- Whether a token may start with a character. -/
def Token.starts (c : Char) : Token → Bool
  | .opens bracket => c == bracket.opening
  | .closes bracket => c == bracket.closing
  | .comma => c == ','
  | .colon => c == ':'
  | .null => c == 'n'
  | .bool true => c == 't'
  | .bool false => c == 'f'
  | .int _ => isNumberChar c
  | .string _ => c == '"'

theorem exists_toDigits_eq_cons (n : Nat) :
    ∃ c rest, Nat.toDigits 10 n = c :: rest ∧ c.isDigit = true := by
  obtain ⟨c, rest, hdigits⟩ := List.exists_cons_of_ne_nil (Nat.toDigits_ne_nil (n := n) (b := 10))
  have hmem : c ∈ Nat.toDigits 10 n := by
    rw [hdigits]
    exact List.mem_cons_self
  exact ⟨c, rest, hdigits, isDigit_of_mem_toDigits hmem⟩

theorem Token.Written.exists_head {token : Token} {t : List Char} (h : token.Written t) :
    ∃ c rest, t = c :: rest ∧ token.starts c = true := by
  cases h with
  | whole n =>
    obtain ⟨c, rest, hdigits, hc⟩ := exists_toDigits_eq_cons n
    refine ⟨c, rest, hdigits, ?_⟩
    rw [Token.starts, isNumberChar, hc, Bool.true_or]
  | minus n => exact ⟨'-', _, rfl, rfl⟩
  | string h => exact ⟨'"', _, rfl, rfl⟩
  | opens bracket => exact ⟨_, _, rfl, beq_self_eq_true _⟩
  | closes bracket => exact ⟨_, _, rfl, beq_self_eq_true _⟩
  | comma | colon | null | yes | no => exact ⟨_, _, rfl, rfl⟩

theorem isGap_eq_true_iff {c : Char} :
    isGap c = true ↔ c = ' ' ∨ c = '\t' ∨ c = '\n' ∨ c = '\r' := by
  simp only [isGap, Bool.or_eq_true, beq_iff_eq, or_assoc]

theorem Token.isGap_of_starts {token : Token} {c : Char} (h : token.starts c = true) :
    isGap c = false := by
  rw [← Bool.not_eq_true, isGap_eq_true_iff]
  rintro (rfl | rfl | rfl | rfl)
  all_goals
    cases token with
    | bool value => cases value <;> exact absurd h (by decide)
    | opens bracket | closes bracket => cases bracket <;> exact absurd h (by decide)
    | comma | colon | null | int _ | string _ => exact absurd h (by rw [Token.starts]; decide)

theorem skipGaps_append {gap : List Char} (h : ∀ c ∈ gap, isGap c = true) (s : List Char) :
    skipGaps (gap ++ s) = skipGaps s :=
  List.dropWhile_append_of_pos h

theorem Token.Written.skipGaps {token : Token} {t : List Char} (h : token.Written t)
    (rest : List Char) : Options.skipGaps (t ++ rest) = t ++ rest := by
  obtain ⟨c, cs, rfl, hc⟩ := h.exists_head
  exact List.dropWhile_cons_of_neg (by simp [isGap_of_starts hc])

theorem Spaced.skipGaps_nil {s : List Char} (h : Spaced [] s) : skipGaps s = [] := by
  cases h with
  | blank hgap => exact List.dropWhile_eq_nil_iff.mpr hgap

/-- Behind the blanks in front there is the first token. -/
theorem Spaced.skipGaps_cons {token : Token} {tokens : List Token} {s : List Char}
    (h : Spaced (token :: tokens) s) :
    ∃ t rest, token.Written t ∧ Spaced tokens rest ∧ skipGaps s = t ++ rest := by
  cases h with
  | @token gap t rest _ _ hgap ht hrest =>
    refine ⟨t, rest, ht, hrest, ?_⟩
    rw [skipGaps_append hgap, ht.skipGaps]

/-- Blanks in front make no difference. -/
theorem Spaced.of_skipGaps {tokens : List Token} {s : List Char} (h : Spaced tokens (skipGaps s)) :
    Spaced tokens s := by
  have hgap : ∀ c ∈ s.takeWhile isGap, isGap c = true := fun _ hc => List.mem_takeWhile_imp hc
  have hspaced := h.behind hgap
  unfold Options.skipGaps at hspaced
  rwa [List.takeWhile_append_dropWhile] at hspaced

/-- The character of a token that has only one. -/
def Token.mark? : Token → Option Char
  | .opens bracket => some bracket.opening
  | .closes bracket => some bracket.closing
  | .comma => some ','
  | .colon => some ':'
  | _ => none

theorem Token.Written.eq_mark {token : Token} {t : List Char} (h : token.Written t) {c : Char}
    (hc : token.mark? = some c) : t = [c] := by
  cases h <;> cases hc <;> rfl

theorem Spaced.skipGaps_mark {token : Token} {tokens : List Token} {s : List Char} {c : Char}
    (hc : token.mark? = some c) (h : Spaced (token :: tokens) s) :
    ∃ rest, Spaced tokens rest ∧ skipGaps s = c :: rest := by
  obtain ⟨t, rest, ht, hrest, hgaps⟩ := h.skipGaps_cons
  rw [ht.eq_mark hc] at hgaps
  exact ⟨rest, hrest, hgaps⟩

/-! ## The compact text -/

/-- The tokens stand in the text without any blanks. -/
def Compact (tokens : List Token) (text : String) : Prop :=
  ∀ later rest, Spaced later rest → Spaced (tokens ++ later) (text.toList ++ rest)

theorem compact_nil : Compact [] "" := fun _ _ h => h

theorem Compact.append {ts us : List Token} {x y : String} (hx : Compact ts x)
    (hy : Compact us y) : Compact (ts ++ us) (x ++ y) := by
  intro later rest h
  rw [List.append_assoc, String.toList_append, List.append_assoc]
  exact hx _ _ (hy _ _ h)

theorem compact_token {token : Token} {text : String} (h : token.Written text.toList) :
    Compact [token] text :=
  fun _ _ hrest => .tight h hrest

theorem written_toString (n : Int) : Token.Written (.int n) (toString n).toList := by
  rcases toList_toString_cases n with ⟨m, hn, htext⟩ | ⟨m, hn, htext⟩
  · rw [htext, hn]
    exact .whole m
  · rw [htext, hn]
    exact .minus m

theorem written_jsonString (value : String) :
    Token.Written (.string value) (Text.jsonString value).toList := by
  rw [Text.jsonString, String.toList_ofList]
  exact .string (Text.spelled_jsonInner value.toList)

theorem compact_joinWith {α : Type} {tokens : α → List Token} {text : α → String} {xs : List α}
    (h : ∀ x ∈ xs, Compact (tokens x) (text x)) :
    Compact ([.comma].intercalate (xs.map tokens)) (Text.joinWith "," (xs.map text)) := by
  match xs with
  | [] => exact compact_nil
  | [x] =>
    rw [List.map_singleton, List.map_singleton, List.intercalate_singleton, Text.joinWith]
    exact h x List.mem_cons_self
  | x :: y :: xs =>
    rw [List.forall_mem_cons] at h
    have hcomma : Compact [.comma] "," := compact_token .comma
    have hrest := compact_joinWith h.2
    simp only [List.map_cons] at hrest ⊢
    rw [List.intercalate_cons_cons, Text.joinWith]
    · exact (h.1.append hcomma).append hrest
    · exact List.cons_ne_nil _ _

theorem compact_enclosed {bracket : Bracket} {inner : List Token} {text opening closing : String}
    (ho : opening.toList = [bracket.opening]) (hc : closing.toList = [bracket.closing])
    (h : Compact inner text) :
    Compact (.opens bracket :: (inner ++ [.closes bracket])) (opening ++ text ++ closing) := by
  have hopen : Compact [.opens bracket] opening := compact_token (ho ▸ .opens bracket)
  have hclose : Compact [.closes bracket] closing := compact_token (hc ▸ .closes bracket)
  exact (hopen.append h).append hclose

theorem compact_memberText {member : String × Json} (h : Compact member.2.tokens member.2.text) :
    Compact (memberTokensOf member) (memberText member) := by
  have hkey : Compact [.string member.1] (Text.jsonString member.1) :=
    compact_token (written_jsonString member.1)
  have hcolon : Compact [.colon] ":" := compact_token .colon
  exact (hkey.append hcolon).append h

theorem compact_text (value : Json) : Compact value.tokens value.text := by
  induction value using Json.induction with
  | null => exact compact_token .null
  | bool value =>
    cases value with
    | true => exact compact_token .yes
    | false => exact compact_token .no
  | int value => exact compact_token (written_toString value)
  | string value => exact compact_token (written_jsonString value)
  | array items ih =>
    rw [tokens, text, itemTokens_eq_map, texts_eq_map]
    exact compact_enclosed rfl rfl (compact_joinWith ih)
  | object members ih =>
    rw [tokens, text, memberTokens_eq_map, memberTexts_eq_map]
    exact compact_enclosed rfl rfl
      (compact_joinWith fun member hmember => compact_memberText (ih member hmember))

/-- Every value has a text. -/
theorem spaced_text (value : Json) : Spaced value.tokens value.text.toList := by
  have hnil : Spaced [] [] := .blank fun _ hc => absurd hc List.not_mem_nil
  have h := compact_text value [] [] hnil
  rwa [List.append_nil, List.append_nil] at h

end Json

end HtmlComponent
