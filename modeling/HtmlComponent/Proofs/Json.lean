import HtmlComponent.Json
import HtmlComponent.Proofs.Text.Quoted
import HtmlComponent.Proofs.Text.Words

/-!
# JSON texts are uniquely decodable

The text of a value shows by its first character of which kind it is, and carries its own end; only a
number goes on as long as there are digits. So the value can be cut off the front of a longer text in
one way only, and two values with one text are the same.
-/

namespace HtmlComponent.Json

/-- Proof by cases on a value, with the claim at hand for each of its parts. -/
@[elab_as_elim]
theorem induction {motive : Json → Prop} (null : motive .null)
    (bool : ∀ value, motive (.bool value)) (int : ∀ value, motive (.int value))
    (string : ∀ value, motive (.string value))
    (array : ∀ items, (∀ item ∈ items, motive item) → motive (.array items))
    (object : ∀ members, (∀ member ∈ members, motive member.2) → motive (.object members))
    (value : Json) : motive value :=
  @Json.rec motive (fun items => ∀ item ∈ items, motive item)
    (fun members => ∀ member ∈ members, motive member.2) (fun member => motive member.2)
    null bool int string array object
    (fun _ h => absurd h List.not_mem_nil)
    (fun _ _ hitem hrest => List.forall_mem_cons.mpr ⟨hitem, hrest⟩)
    (fun _ h => absurd h List.not_mem_nil)
    (fun _ _ hmember hrest => List.forall_mem_cons.mpr ⟨hmember, hrest⟩)
    (fun _ _ h => h) value

def memberText (member : String × Json) : String :=
  Text.jsonString member.1 ++ ":" ++ member.2.text

theorem texts_eq_map (items : List Json) : texts items = items.map text := by
  induction items with
  | nil => rfl
  | cons item rest ih => rw [texts, ih, List.map_cons]

theorem memberTexts_eq_map (members : List (String × Json)) :
    memberTexts members = members.map memberText := by
  induction members with
  | nil => rfl
  | cons member rest ih =>
    obtain ⟨key, value⟩ := member
    rw [memberTexts, ih, List.map_cons, memberText]

/-! ## Where a value ends -/

def isNumberChar (c : Char) : Bool :=
  c.isDigit || c == '-'

/-- The text does not go on as a number. -/
def EndsValue (s : List Char) : Prop :=
  ∀ c ∈ s.head?, isNumberChar c = false

theorem endsValue_cons {c : Char} (h : isNumberChar c = false) (s : List Char) :
    EndsValue (c :: s) := by
  intro d hd
  rw [List.head?_cons, Option.mem_some_iff] at hd
  rwa [← hd]

/-- The text of `a` can be cut off in front of whatever ends a value, and in one way only. -/
def Delimited {α : Type} (text : α → String) (a : α) : Prop :=
  ∀ (b : α) (r s : List Char), EndsValue r → EndsValue s →
    (text a).toList ++ r = (text b).toList ++ s → a = b ∧ r = s

/-! ## Numbers -/

/-- The two ways in which a number is written. -/
theorem toList_toString_cases (n : Int) :
    (∃ m : Nat, n = m ∧ (toString n).toList = Nat.toDigits 10 m) ∨
    (∃ m : Nat, n = -m ∧ (toString n).toList = '-' :: Nat.toDigits 10 m) := by
  have htext : (toString n).toList = n.repr.toList := rfl
  rw [htext, Int.repr_eq_if]
  split
  · refine .inl ⟨n.toNat, by omega, ?_⟩
    rw [Nat.repr_eq_ofList_toDigits, String.toList_ofList]
  · refine .inr ⟨(-n).toNat, by omega, ?_⟩
    simp [Nat.repr_eq_ofList_toDigits]

theorem isDigit_of_mem_toDigits {n : Nat} {c : Char} (h : c ∈ Nat.toDigits 10 n) :
    c.isDigit = true :=
  Nat.isDigit_of_mem_toDigits (by decide) (by decide) h

theorem isNumberChar_of_mem_toString {n : Int} {c : Char} (h : c ∈ (toString n).toList) :
    isNumberChar c = true := by
  have hdigits : ∀ m, ∀ d ∈ Nat.toDigits 10 m, isNumberChar d = true := by
    intro m d hd
    rw [isNumberChar, isDigit_of_mem_toDigits hd, Bool.true_or]
  rcases toList_toString_cases n with ⟨m, -, htext⟩ | ⟨m, -, htext⟩
  · rw [htext] at h
    exact hdigits m c h
  · rw [htext, List.mem_cons] at h
    rcases h with rfl | h
    · decide
    · exact hdigits m c h

theorem toList_toString_ne_nil (n : Int) : (toString n).toList ≠ [] := by
  rcases toList_toString_cases n with ⟨m, -, htext⟩ | ⟨m, -, htext⟩
  · rw [htext]
    exact Nat.toDigits_ne_nil
  · rw [htext]
    exact List.cons_ne_nil _ _

/-- The number that digits stand for, after a minus that they may have. -/
def numberOf (cs : List Char) : Int :=
  match cs with
  | '-' :: digits => -(Nat.ofDigitChars 10 digits 0 : Nat)
  | digits => (Nat.ofDigitChars 10 digits 0 : Nat)

theorem numberOf_toString (n : Int) : numberOf (toString n).toList = n := by
  rcases toList_toString_cases n with ⟨m, hn, htext⟩ | ⟨m, hn, htext⟩
  · rw [htext, numberOf, Nat.ofDigitChars_ten_toDigits, hn]
    -- no digit is a minus
    intro digits hminus
    have hdigit := isDigit_of_mem_toDigits (hminus ▸ List.mem_cons_self)
    exact absurd hdigit (by decide)
  · rw [htext, numberOf, Nat.ofDigitChars_ten_toDigits, hn]

theorem delimited_toString (n : Int) : Delimited (fun m : Int => toString m) n := by
  intro m r s hr hs h
  -- the number is the longest run of its characters
  have htake := congrArg (List.takeWhile isNumberChar) h
  rw [Text.takeWhile_run (fun _ => isNumberChar_of_mem_toString) hr,
    Text.takeWhile_run (fun _ => isNumberChar_of_mem_toString) hs] at htake
  have hnumber := congrArg numberOf htake
  rw [numberOf_toString, numberOf_toString] at hnumber
  subst hnumber
  exact ⟨rfl, List.append_cancel_left h⟩

/-! ## Strings -/

theorem delimited_jsonString (value : String) : Delimited Text.jsonString value := by
  intro other r s _ _ h
  -- a reader that finds both texts can find only one
  have hread := congrArg Text.readString h
  rw [Text.readString_jsonString, Text.readString_jsonString, Option.some.injEq,
    Prod.mk.injEq] at hread
  exact hread

/-! ## Lists between brackets -/

section

variable {α : Type} {text : α → String} {close : Char}

/-- What stands behind the first of several texts. -/
def behind (rest : List String) (r : List Char) : List Char :=
  match rest with
  | [] => r
  | _ :: _ => ',' :: ((Text.joinWith "," rest).toList ++ r)

theorem toList_joinWith_cons (s : String) (rest : List String) (r : List Char) :
    (Text.joinWith "," (s :: rest)).toList ++ r = s.toList ++ behind rest r := by
  cases rest with
  | nil => rfl
  | cons t rest => simp [Text.joinWith, behind]

theorem endsValue_behind (hclose : isNumberChar close = false) (rest : List String)
    (r : List Char) : EndsValue (behind rest (close :: r)) := by
  cases rest with
  | nil => exact endsValue_cons hclose r
  | cons t rest => exact endsValue_cons (by decide) _

/-- Items that are delimited are found again up to the bracket that closes their list. -/
theorem joinWith_append_inj (hclose : isNumberChar close = false) (hcomma : close ≠ ',')
    (hhead : ∀ a, ∃ c cs, (text a).toList = c :: cs ∧ c ≠ close) {xs ys : List α}
    (hxs : ∀ x ∈ xs, Delimited text x) {r s : List Char}
    (h : (Text.joinWith "," (xs.map text)).toList ++ close :: r =
      (Text.joinWith "," (ys.map text)).toList ++ close :: s) : xs = ys ∧ r = s := by
  -- a list that is not empty does not start with the bracket
  have hne : ∀ (y : α) (ys : List α) (r s : List Char),
      close :: r ≠ (Text.joinWith "," ((y :: ys).map text)).toList ++ s := by
    intro y ys r s heq
    rcases hhead y with ⟨c, cs, hy, hc⟩
    rw [List.map_cons, toList_joinWith_cons, hy, List.cons_append, List.cons.injEq] at heq
    exact hc heq.1.symm
  induction xs generalizing ys with
  | nil =>
    cases ys with
    | nil => exact ⟨rfl, List.tail_eq_of_cons_eq h⟩
    | cons y ys => exact absurd h (hne y ys r _)
  | cons x xs ih =>
    cases ys with
    | nil => exact absurd h.symm (hne x xs s _)
    | cons y ys =>
      rw [List.forall_mem_cons] at hxs
      rw [List.map_cons, List.map_cons, toList_joinWith_cons, toList_joinWith_cons] at h
      rcases hxs.1 y _ _ (endsValue_behind hclose _ r) (endsValue_behind hclose _ s) h with
        ⟨rfl, hbehind⟩
      -- what stands behind tells whether there is another item
      match xs, ys, hbehind with
      | [], [], hbehind => exact ⟨rfl, List.tail_eq_of_cons_eq hbehind⟩
      | [], _ :: _, hbehind => exact absurd (List.head_eq_of_cons_eq hbehind) hcomma
      | _ :: _, [], hbehind => exact absurd (List.head_eq_of_cons_eq hbehind).symm hcomma
      | x' :: xs, y' :: ys, hbehind =>
        rcases ih hxs.2 (List.tail_eq_of_cons_eq hbehind) with ⟨hrest, hr⟩
        exact ⟨congrArg (x :: ·) hrest, hr⟩

end

/-! ## Values -/

/-- Two values of one kind. -/
inductive SameKind : Json → Json → Prop
  | null : SameKind .null .null
  | bool (a b : Bool) : SameKind (.bool a) (.bool b)
  | int (m n : Int) : SameKind (.int m) (.int n)
  | string (a b : String) : SameKind (.string a) (.string b)
  | array (xs ys : List Json) : SameKind (.array xs) (.array ys)
  | object (ms ns : List (String × Json)) : SameKind (.object ms) (.object ns)

/-- A character for each kind. -/
def mark : Json → Char
  | .null => 'n'
  | .bool _ => 't'
  | .int _ => '0'
  | .string _ => '"'
  | .array _ => '['
  | .object _ => '\x7b'

/-- The kind of the values that start with a character. -/
def markOf (c : Char) : Char :=
  if isNumberChar c then '0' else if c == 'f' then 't' else c

theorem sameKind_of_mark_eq {v w : Json} (h : v.mark = w.mark) : SameKind v w := by
  -- the marks of two kinds differ, so only the pairs of one kind are left
  cases v <;> cases w <;> simp [mark] at h <;> constructor

theorem toList_text_array (items : List Json) :
    (array items).text.toList = '[' :: ((Text.joinWith "," (items.map text)).toList ++ [']']) := by
  rw [text, texts_eq_map, String.toList_append, String.toList_append]
  simp

theorem toList_text_object (members : List (String × Json)) :
    (object members).text.toList =
      '\x7b' :: ((Text.joinWith "," (members.map memberText)).toList ++ ['\x7d']) := by
  rw [text, memberTexts_eq_map, String.toList_append, String.toList_append]
  simp

theorem exists_head_text (v : Json) :
    ∃ c cs, v.text.toList = c :: cs ∧ markOf c = v.mark := by
  cases v with
  | null => exact ⟨'n', _, rfl, rfl⟩
  | bool value =>
    cases value with
    | true => exact ⟨'t', _, rfl, rfl⟩
    | false => exact ⟨'f', _, rfl, rfl⟩
  | int value =>
    rcases List.exists_cons_of_ne_nil (toList_toString_ne_nil value) with ⟨c, cs, hcs⟩
    have hmem : c ∈ (toString value).toList := by
      rw [hcs]
      exact List.mem_cons_self
    exact ⟨c, cs, hcs, if_pos (isNumberChar_of_mem_toString hmem)⟩
  | string value => exact ⟨'"', _, String.toList_ofList, rfl⟩
  | array items => exact ⟨'[', _, toList_text_array items, rfl⟩
  | object members => exact ⟨'\x7b', _, toList_text_object members, rfl⟩

theorem sameKind_of_append_eq {v w : Json} {r s : List Char}
    (h : v.text.toList ++ r = w.text.toList ++ s) : SameKind v w := by
  rcases exists_head_text v with ⟨c, cs, hv, hcv⟩
  rcases exists_head_text w with ⟨d, ds, hw, hdw⟩
  rw [hv, hw, List.cons_append, List.cons_append, List.cons.injEq] at h
  apply sameKind_of_mark_eq
  rw [← hcv, ← hdw, h.1]

theorem exists_head_item (v : Json) : ∃ c cs, v.text.toList = c :: cs ∧ c ≠ ']' := by
  rcases exists_head_text v with ⟨c, cs, hv, hc⟩
  refine ⟨c, cs, hv, ?_⟩
  rintro rfl
  -- the closing bracket is the mark of no kind
  have hmark : v.mark ≠ ']' := by cases v <;> simp [mark]
  exact hmark hc.symm

theorem toList_memberText_append (key : String) (value : Json) (r : List Char) :
    (memberText (key, value)).toList ++ r =
      (Text.jsonString key).toList ++ ':' :: (value.text.toList ++ r) := by
  simp [memberText]

theorem exists_head_member (member : String × Json) :
    ∃ c cs, (memberText member).toList = c :: cs ∧ c ≠ '\x7d' := by
  have hsplit := toList_memberText_append member.1 member.2 []
  rw [List.append_nil, Text.jsonString, String.toList_ofList] at hsplit
  exact ⟨'"', _, hsplit, by decide⟩

theorem delimited_memberText {key : String} {value : Json} (h : Delimited text value) :
    Delimited memberText (key, value) := by
  rintro ⟨key', value'⟩ r s hr hs heq
  have hcolon : ∀ t, EndsValue (':' :: t) := endsValue_cons (by decide)
  rw [toList_memberText_append, toList_memberText_append] at heq
  rcases delimited_jsonString key key' _ _ (hcolon _) (hcolon _) heq with ⟨rfl, hvalue⟩
  rcases h value' r s hr hs (List.tail_eq_of_cons_eq hvalue) with ⟨rfl, hrest⟩
  exact ⟨rfl, hrest⟩

/-- Every value can be cut off the front of a text in one way only. -/
theorem delimited_text (v : Json) : Delimited text v := by
  induction v using Json.induction with
  | null =>
    intro w r s _ _ h
    cases sameKind_of_append_eq h
    exact ⟨rfl, List.append_cancel_left h⟩
  | bool a =>
    intro w r s _ _ h
    cases sameKind_of_append_eq h with
    | bool _ b =>
      cases a <;> cases b
      · exact ⟨rfl, List.append_cancel_left h⟩
      · exact absurd (List.head_eq_of_cons_eq h) (by decide)
      · exact absurd (List.head_eq_of_cons_eq h) (by decide)
      · exact ⟨rfl, List.append_cancel_left h⟩
  | int m =>
    intro w r s hr hs h
    cases sameKind_of_append_eq h with
    | int _ n =>
      rcases delimited_toString m n r s hr hs h with ⟨rfl, hrest⟩
      exact ⟨rfl, hrest⟩
  | string a =>
    intro w r s hr hs h
    cases sameKind_of_append_eq h with
    | string _ b =>
      rcases delimited_jsonString a b r s hr hs h with ⟨rfl, hrest⟩
      exact ⟨rfl, hrest⟩
  | array items ih =>
    intro w r s _ _ h
    cases sameKind_of_append_eq h with
    | array _ items' =>
      rw [toList_text_array, toList_text_array] at h
      simp only [List.cons_append, List.append_assoc, List.nil_append, List.cons.injEq,
        true_and] at h
      rcases joinWith_append_inj (by decide) (by decide) exists_head_item ih h with ⟨rfl, hrest⟩
      exact ⟨rfl, hrest⟩
  | object members ih =>
    intro w r s _ _ h
    cases sameKind_of_append_eq h with
    | object _ members' =>
      rw [toList_text_object, toList_text_object] at h
      simp only [List.cons_append, List.append_assoc, List.nil_append, List.cons.injEq,
        true_and] at h
      have hmembers : ∀ member ∈ members, Delimited memberText member :=
        fun member hmember => delimited_memberText (ih member hmember)
      rcases joinWith_append_inj (by decide) (by decide) exists_head_member hmembers h with
        ⟨rfl, hrest⟩
      exact ⟨rfl, hrest⟩

theorem eq_of_text_eq {v w : Json} (h : v.text = w.text) : v = w := by
  have hnil : EndsValue [] := fun c hc => nomatch hc
  exact (delimited_text v w [] [] hnil hnil (by rw [h])).1

end HtmlComponent.Json
