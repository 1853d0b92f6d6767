import HtmlComponent.Text.Blank

/-!
# Runs of characters and the words of a text

A run of characters of one kind ends where another kind comes up. A word is not empty and holds no
blank, so no separator with a blank in it can come up inside one.
-/

namespace HtmlComponent.Text

theorem takeWhile_run {p : Char → Bool} {run rest : List Char} (hrun : ∀ c ∈ run, p c = true)
    (hrest : ∀ c ∈ rest.head?, p c = false) : (run ++ rest).takeWhile p = run := by
  induction run with
  | nil =>
    cases rest with
    | nil => rfl
    | cons c rest =>
      have hc : p c = false := hrest c rfl
      rw [List.nil_append, List.takeWhile_cons, hc]
      rfl
  | cons c run ih =>
    rw [List.forall_mem_cons] at hrun
    rw [List.cons_append, List.takeWhile_cons, hrun.1, ih hrun.2]
    rfl

theorem dropWhile_run {p : Char → Bool} {run rest : List Char} (hrun : ∀ c ∈ run, p c = true)
    (hrest : ∀ c ∈ rest.head?, p c = false) : (run ++ rest).dropWhile p = rest := by
  rw [List.dropWhile_append_of_pos hrun]
  cases rest with
  | nil => rfl
  | cons c rest =>
    have hc := hrest c rfl
    rw [List.dropWhile_cons_of_neg (by simp [hc])]

def IsWord (word : List Char) : Prop :=
  word ≠ [] ∧ ∀ c ∈ word, isBlank c = false

theorem isWord_of_mem_closeWord {word : List Char} {rest : List (List Char)}
    (hword : ∀ c ∈ word, isBlank c = false) (hrest : ∀ w ∈ rest, IsWord w) :
    ∀ w ∈ closeWord word rest, IsWord w := by
  unfold closeWord
  split
  · exact hrest
  · rename_i hne
    exact List.forall_mem_cons.mpr ⟨⟨by simpa using hne, hword⟩, hrest⟩

/-- The word at the start has no blank, though it may be empty; the later ones are words. -/
theorem splitWords_spec (cs : List Char) :
    (∀ c ∈ (splitWords cs).1, isBlank c = false) ∧ ∀ w ∈ (splitWords cs).2, IsWord w := by
  induction cs with
  | nil => simp [splitWords]
  | cons c cs ih =>
    rw [splitWords]
    by_cases hc : isBlank c = true
    · rw [if_pos hc]
      exact ⟨fun _ h => absurd h List.not_mem_nil, isWord_of_mem_closeWord ih.1 ih.2⟩
    · rw [if_neg hc]
      exact ⟨List.forall_mem_cons.mpr ⟨Bool.not_eq_true _ ▸ hc, ih.1⟩, ih.2⟩

theorem isWord_of_mem_words {s word : String} (h : word ∈ words s) : IsWord word.toList := by
  rcases List.mem_map.mp h with ⟨w, hw, rfl⟩
  have hspec := splitWords_spec s.toList
  rw [String.toList_ofList]
  exact isWord_of_mem_closeWord hspec.1 hspec.2 w hw

/-! ## Words between blanks -/

def isPresent (word : List Char) : Bool :=
  !word.isEmpty

theorem closeWord_filter (word : List Char) (chunks : List (List Char)) :
    closeWord word (chunks.filter isPresent) = (word :: chunks).filter isPresent := by
  rw [closeWord, List.filter_cons, isPresent]
  cases word.isEmpty <;> rfl

/-- The chunks between blanks are the word at the start, which may be empty, and then the later
words, with an empty chunk wherever two blanks meet or the text ends with one. -/
theorem exists_splitOnP (cs : List Char) :
    ∃ chunks, cs.splitOnP isBlank = (splitWords cs).1 :: chunks ∧
      chunks.filter isPresent = (splitWords cs).2 := by
  induction cs with
  | nil => exact ⟨[], List.splitOnP_nil, rfl⟩
  | cons c cs ih =>
    rcases ih with ⟨chunks, hsplit, hlater⟩
    rw [List.splitOnP_cons_eq_if_modifyHead, splitWords, hsplit]
    by_cases hc : isBlank c = true
    · rw [if_pos hc, if_pos hc, ← hlater, closeWord_filter]
      exact ⟨_, rfl, rfl⟩
    · rw [if_neg hc, if_neg hc, List.modifyHead_cons]
      exact ⟨chunks, rfl, hlater⟩

/-- The words of a text are what stands between its blanks, wherever that is not empty. -/
theorem words_eq_splitOnP (s : String) :
    words s = ((s.toList.splitOnP isBlank).filter isPresent).map String.ofList := by
  rcases exists_splitOnP s.toList with ⟨chunks, hsplit, hlater⟩
  rw [words, ← hlater, closeWord_filter, hsplit]

theorem IsWord.space_not_mem {word : List Char} (h : IsWord word) : ' ' ∉ word := by
  intro hmem
  have hblank := h.2 ' ' hmem
  exact absurd hblank (by decide)

end HtmlComponent.Text
