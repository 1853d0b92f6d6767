import HtmlComponent.Proofs.Identifier
import HtmlComponent.Proofs.Text.Quoted
import HtmlComponent.Proofs.Text.Words

/-!
# Lines

A text falls into lines at its line feeds. Quoted texts have none, whatever they quote, and so they
stay on one line; the same goes for the words of a text and for lists of them.
-/

namespace HtmlComponent.Text

/-- The lines of a text: what stands before, between and behind its line feeds. -/
def splitLines (s : String) : List String :=
  (s.toList.splitOn '\n').map String.ofList

def OneLine (s : String) : Prop :=
  '\n' ∉ s.toList

instance : DecidablePred OneLine :=
  fun s => inferInstanceAs (Decidable ('\n' ∉ s.toList))

/-! ## Splitting and joining -/

theorem toList_joinWith (separator : String) (items : List String) :
    (joinWith separator items).toList = separator.toList.intercalate (items.map String.toList) := by
  induction items with
  | nil => rfl
  | cons item rest ih =>
    cases rest with
    | nil => simp [joinWith]
    | cons next rest =>
      rw [joinWith, String.toList_append, String.toList_append, ih, List.map_cons, List.map_cons,
        List.map_cons, List.intercalate_cons_cons]
      simp

theorem splitLines_joinWith {lines : List String} (hlines : ∀ line ∈ lines, OneLine line)
    (hne : lines ≠ []) : splitLines (joinWith "\n" lines) = lines := by
  have hsplit : (joinWith "\n" lines).toList.splitOn '\n' = lines.map String.toList := by
    rw [toList_joinWith]
    apply List.splitOn_intercalate
    · intro cs hcs
      rcases List.mem_map.mp hcs with ⟨line, hline, rfl⟩
      exact hlines line hline
    · simpa using hne
  rw [splitLines, hsplit, List.map_map]
  simp only [Function.comp_def, String.ofList_toList, List.map_id']

theorem splitLines_append (s t : String) :
    splitLines (s ++ "\n" ++ t) = splitLines s ++ splitLines t := by
  have hlist : (s ++ "\n" ++ t).toList = s.toList ++ '\n' :: t.toList := by simp
  rw [splitLines, hlist, List.splitOn_append_cons_self, List.map_append]
  rfl

theorem splitLines_oneLine_append {s : String} (hs : OneLine s) (t : String) :
    splitLines (s ++ "\n" ++ t) = s :: splitLines t := by
  have hlist : (s ++ "\n" ++ t).toList = s.toList ++ '\n' :: t.toList := by simp
  rw [splitLines, hlist, List.splitOn_append_cons_self_of_not_mem hs, List.map_cons,
    String.ofList_toList]
  rfl

/-- A text of more lines is cut where its first line ends. -/
theorem exists_oneLine_append {s : String} (h : ¬ OneLine s) :
    ∃ line rest, OneLine line ∧ s = line ++ "\n" ++ rest := by
  rcases List.eq_append_cons_of_mem (Decidable.not_not.mp h) with ⟨line, rest, hs, hline⟩
  refine ⟨String.ofList line, String.ofList rest, by simpa [OneLine] using hline, ?_⟩
  rw [← String.toList_inj, hs]
  simp

/-- The first line of a text is found where its first line feed is. -/
theorem oneLine_append_inj {s t rest rest' : String} (hs : OneLine s) (ht : OneLine t)
    (h : s ++ "\n" ++ rest = t ++ "\n" ++ rest') : s = t ∧ rest = rest' := by
  have htake : ∀ {u : String} (v : String), OneLine u →
      (u ++ "\n" ++ v).toList.takeWhile (· != '\n') = u.toList := by
    intro u v hu
    rw [String.toList_append, String.toList_append, List.append_assoc]
    apply takeWhile_run
    · intro c hc
      have hne : c ≠ '\n' := fun heq => hu (heq ▸ hc)
      simpa using hne
    · simp
  have heq : s = t := by
    rw [← String.toList_inj, ← htake rest hs, h, htake rest' ht]
  rw [heq, String.append_right_inj] at h
  exact ⟨heq, h⟩

/-! ## Texts on one line -/

theorem oneLine_append {s t : String} : OneLine (s ++ t) ↔ OneLine s ∧ OneLine t := by
  unfold OneLine
  rw [String.toList_append, List.mem_append, not_or]

theorem oneLine_joinWith {separator : String} {items : List String} (hsep : OneLine separator)
    (hitems : ∀ item ∈ items, OneLine item) : OneLine (joinWith separator items) := by
  intro hmem
  rcases Identifier.mem_toList_joinWith hmem with h | ⟨item, hitem, h⟩
  · exact hsep h
  · exact hitems item hitem h

theorem oneLine_spaces (n : Nat) : OneLine (String.ofList (List.replicate n ' ')) := by
  unfold OneLine
  rw [String.toList_ofList]
  intro hmem
  exact absurd (List.eq_of_mem_replicate hmem) (by decide)

theorem lineFeed_not_mem_jsonChar (c : Char) : '\n' ∉ jsonChar c := by
  intro hmem
  rcases jsonChar_cases c with ⟨e, hshort, he⟩ | ⟨hlow, he⟩ | ⟨-, -, hhigh, he⟩
  · have htable : ∀ p ∈ shortEscapes, '\n' ∉ ['\\', p.2] := by decide
    rw [he] at hmem
    exact htable (c, e) hshort hmem
  · -- a code has none but hexadecimal digits
    have h₁ := hexDigit_ne (show c.toNat / 16 < 16 by omega) (show '\n' ∉ hexAlphabet by decide)
    have h₂ := hexDigit_ne (show c.toNat % 16 < 16 by omega) (show '\n' ∉ hexAlphabet by decide)
    rw [he, controlEscape] at hmem
    simp [Ne.symm h₁, Ne.symm h₂] at hmem
  · rw [he, List.mem_singleton] at hmem
    rw [← hmem] at hhigh
    exact absurd hhigh (by decide)

theorem oneLine_jsonString (s : String) : OneLine (jsonString s) := by
  unfold OneLine
  rw [jsonString, String.toList_ofList, jsonInner]
  simp [lineFeed_not_mem_jsonChar]

theorem lineFeed_not_mem_literalChar (c : Char) : '\n' ∉ literalChar c := by
  unfold literalChar bareChar
  by_cases hmark : c = '\x60' ∨ c = '$'
  · rcases hmark with rfl | rfl <;> decide
  · by_cases hquote : c = '"'
    · subst hquote
      decide
    · rw [not_or] at hmark
      simp [hmark, hquote, lineFeed_not_mem_jsonChar]

theorem oneLine_templateLiteral (s : String) : OneLine (templateLiteral s) := by
  unfold OneLine
  rw [toList_templateLiteral]
  simp [lineFeed_not_mem_literalChar]

theorem oneLine_of_isWord {word : String} (h : IsWord word.toList) : OneLine word := by
  intro hmem
  have hblank := h.2 '\n' hmem
  exact absurd hblank (by decide)

theorem oneLine_sanitize {name : String} (h : OneLine name) :
    OneLine (Identifier.sanitize name) := by
  unfold OneLine
  rw [Identifier.toList_sanitize, List.mem_map]
  rintro ⟨c, hc, hfeed⟩
  split at hfeed
  · exact absurd hfeed (by decide)
  · exact h (hfeed ▸ hc)

theorem oneLine_importList {names : List String} (h : ∀ name ∈ names, OneLine name) :
    OneLine (Identifier.importList names) := by
  apply oneLine_joinWith (by decide)
  intro item hitem
  rcases List.mem_map.mp hitem with ⟨name, hname, rfl⟩
  exact oneLine_sanitize (h name hname)

end HtmlComponent.Text
