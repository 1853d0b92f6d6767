import HtmlComponent.Proofs.Component.Module
import HtmlComponent.Proofs.Document.Same

/-!
# Modules of documents that are the same up to order

Attributes that come in another order give fields in another order, and names give import lists in
another order, but nothing is written more or less often. So each character comes up equally often
in both modules, though not in the same places.
-/

namespace HtmlComponent

/-! ## How often a character comes up -/

namespace Text

def occurrences (c : Char) (s : String) : Nat :=
  s.toList.count c

theorem perm_iff_occurrences {s t : String} :
    s.toList.Perm t.toList ↔ ∀ c, occurrences c s = occurrences c t :=
  List.perm_iff_count

theorem occurrences_append (c : Char) (s t : String) :
    occurrences c (s ++ t) = occurrences c s + occurrences c t := by
  rw [occurrences, String.toList_append, List.count_append]
  rfl

theorem occurrences_joinWith (c : Char) (separator : String) (items : List String) :
    occurrences c (joinWith separator items) =
      (items.flatMap String.toList).count c + (items.length - 1) * occurrences c separator := by
  induction items with
  | nil => simp [joinWith, occurrences]
  | cons item rest ih =>
    cases rest with
    | nil => simp [joinWith, occurrences]
    | cons next rest =>
      show occurrences c (item ++ separator ++ joinWith separator (next :: rest)) = _
      rw [occurrences_append, occurrences_append, ih]
      simp only [occurrences, List.flatMap_cons, List.count_append, List.length_cons,
        Nat.add_sub_cancel, Nat.succ_mul]
      omega

theorem occurrences_joinWith_of_perm {items items' : List String} (h : items.Perm items') (c : Char)
    (separator : String) :
    occurrences c (joinWith separator items) = occurrences c (joinWith separator items') := by
  rw [occurrences_joinWith, occurrences_joinWith, (h.flatMap_right _).count_eq, h.length_eq]

theorem utf8ByteSize_ofList_cons (c : Char) (cs : List Char) :
    (String.ofList (c :: cs)).utf8ByteSize = c.utf8Size + (String.ofList cs).utf8ByteSize := by
  rw [String.ofList_cons, String.utf8ByteSize_append, String.utf8ByteSize_singleton]

theorem utf8ByteSize_eq_of_perm {s t : String} (h : s.toList.Perm t.toList) :
    s.utf8ByteSize = t.utf8ByteSize := by
  rw [← String.ofList_toList (s := s), ← String.ofList_toList (s := t)]
  generalize s.toList = cs at h ⊢
  generalize t.toList = ds at h ⊢
  induction h with
  | nil => rfl
  | cons c _ ih => rw [utf8ByteSize_ofList_cons, utf8ByteSize_ofList_cons, ih]
  | swap c d cs =>
    simp only [utf8ByteSize_ofList_cons]
    omega
  | trans _ _ ih ih' => exact ih.trans ih'

end Text

namespace Component

open Text

/-! ## Bodies -/

namespace Body

theorem occurrences_attributes {as bs : Attributes} (h : as.entries.Perm bs.entries) (c : Char) :
    occurrences c (attributes as) = occurrences c (attributes bs) := by
  have hempty : as.isEmpty = bs.isEmpty := h.isEmpty_eq
  have hfields : (fields as.entries).Perm (fields bs.entries) := (h.filter _).map _
  rw [attributes, attributes, hempty]
  split
  · rfl
  · simp only [occurrences_append, occurrences_joinWith_of_perm hfields]

theorem occurrences_leadingAttributes {as bs : Attributes} (h : as.entries.Perm bs.entries)
    (c : Char) : occurrences c (leadingAttributes as) = occurrences c (leadingAttributes bs) := by
  have hempty : as.isEmpty = bs.isEmpty := h.isEmpty_eq
  rw [leadingAttributes, leadingAttributes, hempty]
  split
  · rfl
  · rw [occurrences_append, occurrences_append, occurrences_attributes h]

theorem occurrences_children {c : Char} {xs ys : List Node}
    (h : List.Forall₂ (fun m n => ∀ depth, occurrences c (node depth m) =
      occurrences c (node depth n)) xs ys) (depth : Nat) :
    occurrences c (joinWith ",\n" (xs.map (node depth))) =
      occurrences c (joinWith ",\n" (ys.map (node depth))) := by
  have hcount : ((xs.map (node depth)).flatMap String.toList).count c =
      ((ys.map (node depth)).flatMap String.toList).count c := by
    induction h with
    | nil => rfl
    | cons hnode _ ih =>
      have hfirst := hnode depth
      unfold occurrences at hfirst
      simp only [List.map_cons, List.flatMap_cons, List.count_append, hfirst, ih]
  -- in step, so that there are as many commas between them
  have hlength := h.length_eq
  rw [occurrences_joinWith, occurrences_joinWith, hcount, List.length_map, List.length_map, hlength]

theorem occurrences_node {m n : Node} (h : m.same n) (c : Char) (depth : Nat) :
    occurrences c (node depth m) = occurrences c (node depth n) := by
  refine Node.same_induction (motive := fun m n => ∀ depth, occurrences c (node depth m) =
    occurrences c (node depth n)) ?_ ?_ ?_ h depth
  · intro xs ys hchildren depth
    rw [node, node, nodes_eq_map, nodes_eq_map]
    exact occurrences_children hchildren depth
  · intro name as bs xs ys hattributes hchildren depth
    have hjoined := occurrences_children hchildren (depth + 1)
    cases hchildren with
    | nil => simp only [node, occurrences_append, occurrences_attributes hattributes]
    | cons hnode hrest =>
      rw [List.map_cons, List.map_cons] at hjoined
      simp only [node, nodes_eq_map, occurrences_append, hjoined,
        occurrences_leadingAttributes hattributes]
  · exact fun value depth => rfl

theorem ofRoot_perm {m n : Node} (h : m.same n) : (ofRoot m).toList.Perm (ofRoot n).toList :=
  perm_iff_occurrences.mpr fun c => occurrences_node h c 0

end Body

/-! ## Modules -/

theorem importList_perm {names names' : List String} (h : names.Perm names') :
    (Identifier.importList names).toList.Perm (Identifier.importList names').toList :=
  perm_iff_occurrences.mpr fun c => occurrences_joinWith_of_perm (h.map _) c ", "

theorem moduleText_perm {elements elements' styles styles' body body' : String}
    (helements : elements.toList.Perm elements'.toList)
    (hstyles : styles.toList.Perm styles'.toList) (hbody : body.toList.Perm body'.toList)
    (library className constant : String) :
    (moduleText elements styles library className constant body).toList.Perm
      (moduleText elements' styles' library className constant body').toList := by
  rw [perm_iff_occurrences] at helements hstyles hbody
  apply perm_iff_occurrences.mpr
  intro c
  unfold moduleText
  simp only [occurrences_append, helements c, hstyles c, hbody c]

/-- Documents that are the same up to order have modules of the same characters and bodies of the
same size. If they are in the same order, they have one module. -/
theorem compile_of_same {d e : Document} (h : d.same e) (options : Options) :
    ∃ text text', compile d options = .ok text ∧ compile e options = .ok text' ∧
      text.toList.Perm text'.toList ∧
      (Body.ofRoot d.root).utf8ByteSize = (Body.ofRoot e.root).utf8ByteSize ∧
      (d.SameOrder e → text = text') := by
  rcases Document.same_iff.mp h with ⟨hroot, hstyles, helements⟩
  have hbody := Body.ofRoot_perm hroot
  rcases exists_compile_eq_moduleText options with ⟨constant, hcompile⟩
  refine ⟨_, _, hcompile d, hcompile e, ?_, utf8ByteSize_eq_of_perm hbody, fun horder => ?_⟩
  · exact moduleText_perm (importList_perm helements) (importList_perm hstyles) hbody _ _ _
  · rw [Document.eq_of_same_of_sameOrder h horder]

def noticeDocument : Document :=
  ⟨.root [.tag "div" (.ofPairs [("class", "a-b c"), ("onclick", "f()"), ("id", "ß")])
      [.text "t", .tag "p" .empty []]],
    .ofList ["a-b", "c"], .ofList ["cpt", "shadow", "div", "p"]⟩

/-- The same document with its attributes and both of its sets of names in another order. -/
def shuffledNotice : Document :=
  ⟨.root [.tag "div" (.ofPairs [("id", "ß"), ("class", "a-b c"), ("onclick", "f()")])
      [.text "t", .tag "p" .empty []]],
    .ofList ["c", "a-b"], .ofList ["p", "shadow", "cpt", "div"]⟩

/-- The same document in the same order, collected from names that repeat. -/
def collectedNotice : Document :=
  ⟨.root [.tag "div" (.ofPairs [("class", ""), ("onclick", "f()"), ("class", "a-b c"), ("id", "ß")])
      [.text "t", .tag "p" .empty []]],
    .ofList ["a-b", "c", "a-b"], .ofList ["cpt", "shadow", "cpt", "div", "p"]⟩

theorem notice_compile_of_same :
    (noticeDocument.same shuffledNotice ∧
      Body.ofRoot noticeDocument.root ≠ Body.ofRoot shuffledNotice.root ∧
      ∃ text text', compile noticeDocument {} = .ok text ∧ compile shuffledNotice {} = .ok text' ∧
        text.toList.Perm text'.toList ∧
        (Body.ofRoot noticeDocument.root).utf8ByteSize =
          (Body.ofRoot shuffledNotice.root).utf8ByteSize) ∧
    (noticeDocument.same collectedNotice ∧ noticeDocument.SameOrder collectedNotice ∧
      ∃ text, compile noticeDocument {} = .ok text ∧ compile collectedNotice {} = .ok text) := by
  have hshuffled : noticeDocument.same shuffledNotice := by decide +kernel
  have hcollected : noticeDocument.same collectedNotice := by decide +kernel
  have horder : noticeDocument.SameOrder collectedNotice := by decide +kernel
  refine ⟨⟨hshuffled, by decide +kernel, ?_⟩, hcollected, horder, ?_⟩
  · rcases compile_of_same hshuffled {} with ⟨text, text', htext, htext', hperm, hsize, -⟩
    exact ⟨text, text', htext, htext', hperm, hsize⟩
  · rcases compile_of_same hcollected {} with ⟨text, text', htext, htext', -, -, heq⟩
    exact ⟨text, htext, heq horder ▸ htext'⟩

end Component

end HtmlComponent
