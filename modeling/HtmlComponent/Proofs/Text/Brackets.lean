import HtmlComponent.Proofs.Text.Quoted
import HtmlComponent.Text.Join

/-!
# Balanced brackets

A scan of code keeps the brackets that are open, the innermost first, and passes over quoted text.
Code is balanced if every bracket is closed in its turn. A text that leaves a scan as it was does so
within any further brackets, so such texts can be put one after another and into brackets.
-/

namespace HtmlComponent.Text

/-! ## Scanning code -/

inductive Quote where
  | double
  | back
  deriving DecidableEq

def Quote.mark : Quote → Char
  | .double => '"'
  | .back => '\x60'

inductive Bracket where
  | round
  | square
  | curly
  deriving DecidableEq

def Bracket.opening : Bracket → String
  | .round => "("
  | .square => "["
  | .curly => "\x7b"

def Bracket.closing : Bracket → String
  | .round => ")"
  | .square => "]"
  | .curly => "\x7d"

/-- What a character in code can mean to a scan. -/
inductive Mark where
  | quote (q : Quote)
  | opening (b : Bracket)
  | closing (b : Bracket)

def mark? (c : Char) : Option Mark :=
  if c == '"' then some (.quote .double)
  else if c == '\x60' then some (.quote .back)
  else if c == '(' then some (.opening .round)
  else if c == '[' then some (.opening .square)
  else if c == '\x7b' then some (.opening .curly)
  else if c == ')' then some (.closing .round)
  else if c == ']' then some (.closing .square)
  else if c == '\x7d' then some (.closing .curly)
  else none

inductive ScanMode where
  | code
  | quoted (q : Quote)
  /-- Behind a backslash in quoted text. -/
  | escaped (q : Quote)
  deriving DecidableEq

structure Scan where
  mode : ScanMode
  /-- The brackets that are open, the innermost first. -/
  due : List Bracket
  deriving DecidableEq

namespace Scan

/-- Closes a bracket, which has to be the innermost of those that are open. -/
def close (b : Bracket) : List Bracket → Option Scan
  | [] => none
  | d :: due => if d = b then some ⟨.code, due⟩ else none

/-- Takes one character; none if it closes a bracket out of turn. -/
def step (s : Scan) (c : Char) : Option Scan :=
  match s.mode with
  | .escaped q => some ⟨.quoted q, s.due⟩
  | .quoted q =>
    if c == '\\' then some ⟨.escaped q, s.due⟩
    else if c == q.mark then some ⟨.code, s.due⟩
    else some s
  | .code =>
    match mark? c with
    | none => some s
    | some (.quote q) => some ⟨.quoted q, s.due⟩
    | some (.opening b) => some ⟨.code, b :: s.due⟩
    | some (.closing b) => close b s.due

def run (s : Scan) : List Char → Option Scan
  | [] => some s
  | c :: cs =>
    match s.step c with
    | none => none
    | some s' => s'.run cs

end Scan

/-- Whether all brackets outside quotes are closed, each in its turn, and all quotes as well. -/
def balanced (code : String) : Bool :=
  Scan.run ⟨.code, []⟩ code.toList = some ⟨.code, []⟩

namespace Scan

theorem close_frame {s' : Scan} {b : Bracket} {due : List Bracket} (h : close b due = some s')
    (around : List Bracket) : close b (due ++ around) = some ⟨s'.mode, s'.due ++ around⟩ := by
  cases due with
  | nil => cases h
  | cons d due =>
    rw [List.cons_append]
    simp only [close] at h ⊢
    by_cases hd : d = b
    · rw [if_pos hd] at h ⊢
      cases h
      rfl
    · rw [if_neg hd] at h
      cases h

theorem run_append (s : Scan) (cs ds : List Char) :
    s.run (cs ++ ds) = (s.run cs).bind fun s' => s'.run ds := by
  induction cs generalizing s with
  | nil => rfl
  | cons c cs ih =>
    rw [List.cons_append, run, run]
    cases s.step c with
    | none => rfl
    | some s' => exact ih s'

/-- A step that goes through does so whatever is open around it. -/
theorem step_frame {s s' : Scan} {c : Char} (h : s.step c = some s') (around : List Bracket) :
    step ⟨s.mode, s.due ++ around⟩ c = some ⟨s'.mode, s'.due ++ around⟩ := by
  obtain ⟨mode, due⟩ := s
  cases mode with
  | escaped q =>
    cases h
    rfl
  | quoted q =>
    simp only [step] at h ⊢
    split at h
    · rename_i hslash
      cases h
      rw [if_pos hslash]
    · rename_i hslash
      rw [if_neg hslash]
      split at h
      · rename_i hmark
        cases h
        rw [if_pos hmark]
      · rename_i hmark
        cases h
        rw [if_neg hmark]
  | code =>
    simp only [step] at h ⊢
    match hmark : mark? c with
    | none | some (.quote _) | some (.opening _) =>
      rw [hmark] at h
      cases h
      rfl
    | some (.closing b) =>
      -- the one step that looks at what is open, and then at the innermost bracket only
      rw [hmark] at h
      exact close_frame h around

theorem run_frame {s s' : Scan} {cs : List Char} (h : s.run cs = some s')
    (around : List Bracket) :
    run ⟨s.mode, s.due ++ around⟩ cs = some ⟨s'.mode, s'.due ++ around⟩ := by
  induction cs generalizing s with
  | nil =>
    cases h
    rfl
  | cons c cs ih =>
    rw [run] at h
    cases hstep : s.step c with
    | none =>
      rw [hstep] at h
      cases h
    | some next =>
      rw [hstep] at h
      rw [run, step_frame hstep around]
      exact ih h

end Scan

/-! ## Texts that leave a scan as it was -/

/-- Read inside these brackets, with any others around them, the text changes nothing. -/
def Neutral (inside : List Bracket) (text : String) : Prop :=
  ∀ around, Scan.run ⟨.code, inside ++ around⟩ text.toList = some ⟨.code, inside ++ around⟩

theorem neutral_iff {inside : List Bracket} {text : String} :
    Neutral inside text ↔ Scan.run ⟨.code, inside⟩ text.toList = some ⟨.code, inside⟩ := by
  constructor
  · intro h
    have hnil := h []
    rwa [List.append_nil] at hnil
  · intro h around
    exact Scan.run_frame h around

theorem balanced_iff_neutral {code : String} : balanced code ↔ Neutral [] code := by
  rw [neutral_iff, balanced, decide_eq_true_iff]

section

variable {inside : List Bracket}

theorem Neutral.of_nil {text : String} (h : Neutral [] text) : Neutral inside text :=
  fun around => h (inside ++ around)

theorem neutral_empty : Neutral inside "" :=
  fun _ => rfl

theorem neutral_append_iff {s t : String} (hs : Neutral inside s) :
    Neutral inside (s ++ t) ↔ Neutral inside t := by
  unfold Neutral
  simp only [String.toList_append, Scan.run_append, hs _, Option.bind_some]

theorem Neutral.append {s t : String} (hs : Neutral inside s) (ht : Neutral inside t) :
    Neutral inside (s ++ t) :=
  (neutral_append_iff hs).mpr ht

theorem Neutral.joinWith {separator : String} (hsep : Neutral inside separator)
    {texts : List String} (h : ∀ s ∈ texts, Neutral inside s) :
    Neutral inside (joinWith separator texts) := by
  induction texts with
  | nil => exact neutral_empty
  | cons s rest ih =>
    rw [List.forall_mem_cons] at h
    cases rest with
    | nil => exact h.1
    | cons t rest => exact (h.1.append hsep).append (ih h.2)

theorem run_opening (b : Bracket) (due : List Bracket) :
    Scan.run ⟨.code, due⟩ b.opening.toList = some ⟨.code, b :: due⟩ := by
  cases b <;> rfl

theorem run_closing (b : Bracket) (due : List Bracket) :
    Scan.run ⟨.code, b :: due⟩ b.closing.toList = some ⟨.code, due⟩ := by
  cases b <;> rfl

/-- Brackets may be put around a text that changes nothing inside them. -/
theorem Neutral.enclose {b : Bracket} {text : String} (h : Neutral (b :: inside) text) :
    Neutral inside (b.opening ++ text ++ b.closing) := by
  intro around
  have htext := h around
  rw [List.cons_append] at htext
  rw [String.toList_append, String.toList_append, Scan.run_append, Scan.run_append, run_opening]
  simp only [Option.bind_some, htext, run_closing]

theorem toList_closing (b : Bracket) :
    ∃ c, b.closing.toList = [c] ∧ mark? c = some (.closing b) ∧ c ≠ '\\' ∧
      ∀ q : Quote, c ≠ q.mark := by
  cases b with
  | round => exact ⟨')', rfl, rfl, by decide, fun q => by cases q <;> decide⟩
  | square => exact ⟨']', rfl, rfl, by decide, fun q => by cases q <;> decide⟩
  | curly => exact ⟨'\x7d', rfl, rfl, by decide, fun q => by cases q <;> decide⟩

/-- A scan that a closing bracket brings back to code was in code, with that bracket open. -/
theorem eq_of_run_closing {s : Scan} {b : Bracket} {due : List Bracket}
    (h : s.run b.closing.toList = some ⟨.code, due⟩) : s = ⟨.code, b :: due⟩ := by
  obtain ⟨mode, before⟩ := s
  rcases toList_closing b with ⟨c, hc, hmark, hslash, hquote⟩
  rw [hc, Scan.run, Scan.step] at h
  cases mode with
  | escaped q => cases h
  | quoted q =>
    -- a bracket is just another character of quoted text
    simp only [beq_iff_eq, hslash, hquote q, ↓reduceIte] at h
    cases h
  | code =>
    simp only [hmark] at h
    cases before with
    | nil => cases h
    | cons d before =>
      by_cases hd : d = b
      · simp only [Scan.close, if_pos hd, Scan.run, Option.some.injEq, Scan.mk.injEq, true_and] at h
        rw [hd, h]
      · simp only [Scan.close, if_neg hd] at h
        cases h

theorem neutral_enclose_iff {b : Bracket} {text : String} :
    Neutral inside (b.opening ++ text ++ b.closing) ↔ Neutral (b :: inside) text := by
  refine ⟨fun h => ?_, Neutral.enclose⟩
  rw [neutral_iff] at h ⊢
  rw [String.toList_append, String.toList_append, Scan.run_append, Scan.run_append, run_opening,
    Option.bind_some] at h
  rcases Option.bind_eq_some_iff.mp h with ⟨s, htext, hclosing⟩
  rw [htext, eq_of_run_closing hclosing]

theorem run_of_not_mark {cs : List Char} (h : ∀ c ∈ cs, mark? c = none) (due : List Bracket) :
    Scan.run ⟨.code, due⟩ cs = some ⟨.code, due⟩ := by
  induction cs with
  | nil => rfl
  | cons c cs ih =>
    rw [List.forall_mem_cons] at h
    rw [Scan.run, Scan.step]
    simp only [h.1]
    exact ih h.2

theorem neutral_of_not_mark {text : String} (h : ∀ c ∈ text.toList, mark? c = none) :
    Neutral inside text :=
  fun around => run_of_not_mark h (inside ++ around)

/-- The same in a form that can be evaluated. -/
theorem neutral_of_all_isNone {text : String} (h : text.toList.all fun c => (mark? c).isNone) :
    Neutral inside text := by
  apply neutral_of_not_mark
  simpa using h

end

/-! ## Quoted text -/

/-- Inside these quotes the characters neither end the text nor leave a backslash open. -/
def StaysQuoted (q : Quote) (cs : List Char) : Prop :=
  ∀ due, Scan.run ⟨.quoted q, due⟩ cs = some ⟨.quoted q, due⟩

theorem StaysQuoted.append {q : Quote} {cs ds : List Char} (hc : StaysQuoted q cs)
    (hd : StaysQuoted q ds) : StaysQuoted q (cs ++ ds) := by
  intro due
  rw [Scan.run_append, hc due]
  exact hd due

theorem staysQuoted_flatMap {q : Quote} {f : Char → List Char} (h : ∀ c, StaysQuoted q (f c))
    (cs : List Char) : StaysQuoted q (cs.flatMap f) := by
  induction cs with
  | nil => exact fun _ => rfl
  | cons c cs ih =>
    rw [List.flatMap_cons]
    exact (h c).append ih

theorem staysQuoted_escape (q : Quote) (c : Char) : StaysQuoted q ['\\', c] :=
  fun _ => rfl

theorem staysQuoted_plain {q : Quote} {cs : List Char} (h : ∀ c ∈ cs, c ≠ '\\' ∧ c ≠ q.mark) :
    StaysQuoted q cs := by
  intro due
  induction cs with
  | nil => rfl
  | cons c cs ih =>
    rw [List.forall_mem_cons] at h
    rw [Scan.run, Scan.step]
    simp only [beq_iff_eq, h.1.1, h.1.2, ↓reduceIte]
    exact ih h.2

theorem staysQuoted_controlEscape (q : Quote) {c : Char} (hc : c.toNat < 0x20) :
    StaysQuoted q (controlEscape c) := by
  have hslash : '\\' ∉ hexAlphabet := by decide
  have hmark : q.mark ∉ hexAlphabet := by cases q <;> decide
  have hdigits : ∀ d ∈ hexAlphabet, d ≠ '\\' ∧ d ≠ q.mark :=
    fun d hd => ⟨fun h => hslash (h ▸ hd), fun h => hmark (h ▸ hd)⟩
  have hzero : '0' ∈ hexAlphabet := by decide
  have h₁ := hexDigit_mem (show c.toNat / 16 < 16 by omega)
  have h₂ := hexDigit_mem (show c.toNat % 16 < 16 by omega)
  apply (staysQuoted_escape q 'u').append
  apply staysQuoted_plain
  intro d hd
  apply hdigits
  simp only [List.mem_cons, List.not_mem_nil, or_false] at hd
  rcases hd with rfl | rfl | rfl | rfl
  · exact hzero
  · exact hzero
  · exact h₁
  · exact h₂

/-- A character as JSON writes it stays inside double quotes, and inside backticks unless it is
one. -/
theorem staysQuoted_jsonChar {q : Quote} {c : Char} (h : q = .double ∨ c ≠ q.mark) :
    StaysQuoted q (jsonChar c) := by
  rcases jsonChar_cases c with ⟨e, -, he⟩ | ⟨hlow, he⟩ | ⟨hquote, hslash, -, he⟩
  · rw [he]
    exact staysQuoted_escape q e
  · rw [he]
    exact staysQuoted_controlEscape q hlow
  · -- only here is the character itself written, so only here could it be the mark
    have hmark : c ≠ q.mark := by
      rcases h with rfl | h
      · exact hquote
      · exact h
    rw [he]
    exact staysQuoted_plain (List.forall_mem_singleton.mpr ⟨hslash, hmark⟩)

theorem staysQuoted_literalChar (c : Char) : StaysQuoted .back (literalChar c) := by
  unfold literalChar bareChar
  split
  · exact staysQuoted_escape .back c
  · rename_i hmark
    rw [Bool.or_eq_true, not_or, beq_iff_eq] at hmark
    split
    · rename_i hquote
      rw [beq_iff_eq] at hquote
      subst hquote
      exact staysQuoted_plain (List.forall_mem_singleton.mpr (by decide))
    · exact staysQuoted_jsonChar (.inr hmark.1)

theorem neutral_quoted {inside : List Bracket} {q : Quote} {cs : List Char} {text : String}
    (h : StaysQuoted q cs) (htext : text.toList = q.mark :: (cs ++ [q.mark])) :
    Neutral inside text := by
  intro around
  have hopen : ∀ due, Scan.step ⟨.code, due⟩ q.mark = some ⟨.quoted q, due⟩ := by
    cases q <;> exact fun _ => rfl
  have hclose : ∀ due, Scan.run ⟨.quoted q, due⟩ [q.mark] = some ⟨.code, due⟩ := by
    cases q <;> exact fun _ => rfl
  rw [htext, Scan.run, hopen]
  simp only [Scan.run_append, h (inside ++ around), Option.bind_some, hclose]

/-- No text gets out of the literal that it is written as. -/
theorem neutral_templateLiteral {inside : List Bracket} (s : String) :
    Neutral inside (templateLiteral s) :=
  neutral_quoted (q := .back) (staysQuoted_flatMap staysQuoted_literalChar s.toList)
    (toList_templateLiteral s)

theorem neutral_jsonString {inside : List Bracket} (s : String) : Neutral inside (jsonString s) :=
  neutral_quoted (q := .double)
    (staysQuoted_flatMap (fun _ => staysQuoted_jsonChar (.inl rfl)) s.toList) String.toList_ofList

end HtmlComponent.Text
