import HtmlComponent.Component.Body
import HtmlComponent.Proofs.Attributes
import HtmlComponent.Proofs.Document.Names
import HtmlComponent.Proofs.Identifier
import HtmlComponent.Proofs.Text.Brackets

/-!
# The brackets of a body

Names apart, what a body takes from its tree stands in literals or in the lists of class fields.
Nothing gets out of a literal. The identifiers of a class stand as they are, so it is the class
values, and they alone, on which the balance of a body depends.
-/

namespace HtmlComponent

/-- The class values of the tags of a tree. -/
def Node.classValues (node : Node) : List String :=
  (node.preorder.filterMap tag?).filterMap fun t => t.2.get? "class"

namespace Component.Body

open Text

/-- Whether a node below the root is a text, or a tag with simple names. -/
def hasSimpleNames : Node → Bool
  | .root _ => false
  | .tag name attributes _ =>
    Identifier.isSimple name && attributes.entries.all fun e => Identifier.isSimple e.1
  | .text _ => true

/-- The brackets that a list of identifiers stands in, the innermost first. -/
def classBrackets : List Bracket :=
  [.square, .curly, .round]

/-- Whether the identifiers of a class leave a scan as it was, inside the brackets that they stand
in. They may close these, if they open them again. -/
def isContained (value : String) : Bool :=
  Scan.run ⟨.code, classBrackets⟩ (Identifier.importList (words value)).toList =
    some ⟨.code, classBrackets⟩

theorem isContained_iff {value : String} :
    isContained value ↔ Neutral classBrackets (Identifier.importList (words value)) := by
  rw [neutral_iff, isContained, decide_eq_true_iff]

theorem isContained_of_not_mark {value : String}
    (h : ∀ word ∈ words value, ∀ c ∈ word.toList, mark? c = none) : isContained value := by
  rw [isContained_iff]
  apply Neutral.joinWith (neutral_of_all_isNone (by decide))
  intro s hs
  rcases List.mem_map.mp hs with ⟨word, hword, rfl⟩
  apply neutral_of_not_mark
  rw [Identifier.toList_sanitize]
  intro c hc
  rcases List.mem_map.mp hc with ⟨d, hd, rfl⟩
  split
  · decide
  · exact h word hword d hd

/-! ## Fields -/

theorem neutral_of_isSimple {inside : List Bracket} {name : String}
    (h : Identifier.isSimple name) : Neutral inside name := by
  apply neutral_of_not_mark
  intro c hc
  -- no simple character is a mark, by the table of the ASCII ones
  have hnone := Identifier.forall_isSimpleChar (p := fun c => (mark? c).isNone) (by decide)
    ((Identifier.isSimple_iff.mp h).2 c hc)
  simpa using hnone

theorem neutral_key {inside : List Bracket} {name : String} (h : Identifier.isSimple name) :
    Neutral inside (key name) := by
  unfold key
  split
  · exact neutral_jsonString name
  · exact neutral_of_isSimple h

theorem neutral_classField_iff {value : String} :
    Neutral [.curly, .round] (field "class" value) ↔ isContained value := by
  have hsplit : field "class" value = "c: " ++ (Bracket.square.opening ++
      Identifier.importList (words value) ++ Bracket.square.closing) := by
    simp [field, Bracket.opening, Bracket.closing, ← String.append_assoc]
  rw [hsplit, neutral_append_iff (neutral_of_all_isNone (by decide)), neutral_enclose_iff,
    isContained_iff, classBrackets]

/-- An entry with a simple name, and with a class that is contained if it is one. -/
def SafeEntry (e : String × String) : Prop :=
  Identifier.isSimple e.1 ∧ (e.1 = "class" → isContained e.2)

theorem neutral_field {e : String × String} (h : SafeEntry e) :
    Neutral [.curly, .round] (field e.1 e.2) := by
  by_cases hclass : e.1 = "class"
  · rw [hclass]
    exact neutral_classField_iff.mpr (h.2 hclass)
  · rw [field, if_neg hclass]
    exact ((neutral_key h.1).append (neutral_of_all_isNone (by decide))).append
      (neutral_templateLiteral e.2)

theorem neutral_attributes {as : Attributes} (h : ∀ e ∈ as.entries, SafeEntry e) :
    Neutral [.round] (attributes as) := by
  unfold attributes
  split
  · exact neutral_empty
  · have hfields : Neutral [.curly, .round] (joinWith ", " (fields as.entries)) := by
      apply Neutral.joinWith (neutral_of_all_isNone (by decide))
      intro s hs
      rcases List.mem_map.mp hs with ⟨e, he, rfl⟩
      exact neutral_field (h e (List.mem_filter.mp he).1)
    exact hfields.enclose

theorem neutral_leadingAttributes {as : Attributes} (h : ∀ e ∈ as.entries, SafeEntry e) :
    Neutral [.round] (leadingAttributes as) := by
  unfold leadingAttributes
  split
  · exact neutral_empty
  · exact (neutral_attributes h).append (neutral_of_all_isNone (by decide))

/-! ## Nodes -/

theorem neutral_indent {inside : List Bracket} (depth : Nat) : Neutral inside (indent depth) := by
  apply neutral_of_not_mark
  intro c hc
  rw [indent, String.toList_ofList] at hc
  rw [List.eq_of_mem_replicate hc]
  decide

/-- A node below the root with simple names and contained classes. -/
def SafeNode : Node → Prop
  | .root _ => False
  | .tag name as _ => Identifier.isSimple name ∧ ∀ e ∈ as.entries, SafeEntry e
  | .text _ => True

theorem neutral_children {depth : Nat} {nodes : List Node} {inside : List Bracket}
    (h : ∀ n ∈ nodes, Neutral [] (node depth n)) :
    Neutral inside (joinWith ",\n" (nodes.map (node depth))) := by
  apply Neutral.joinWith (neutral_of_all_isNone (by decide))
  intro s hs
  rcases List.mem_map.mp hs with ⟨n, hn, rfl⟩
  exact (h n hn).of_nil

theorem neutral_node (depth : Nat) {n : Node} (h : ∀ m ∈ n.preorder, SafeNode m) :
    Neutral [] (node depth n) := by
  induction n using Node.induction generalizing depth with
  | root children => exact absurd (h _ (Node.mem_preorder_self _)) id
  | text value => exact (neutral_indent depth).append (neutral_templateLiteral value)
  | tag name as children ih =>
    rcases h _ (Node.mem_preorder_self _) with ⟨hname, hentries⟩
    have hhead : Neutral [] (indent depth ++ name) :=
      (neutral_indent depth).append (neutral_of_isSimple hname)
    cases children with
    | nil =>
      have hsplit : node depth (.tag name as []) = (indent depth ++ name) ++
          (Bracket.round.opening ++ attributes as ++ Bracket.round.closing) := by
        simp [node, Bracket.opening, Bracket.closing, String.append_assoc]
      rw [hsplit]
      exact hhead.append (neutral_attributes hentries).enclose
    | cons child rest =>
      have hsplit : node depth (.tag name as (child :: rest)) = (indent depth ++ name) ++
          (Bracket.round.opening ++ (leadingAttributes as ++ ("\n" ++
            (joinWith ",\n" ((child :: rest).map (node (depth + 1))) ++ ("\n" ++ indent depth)))) ++
            Bracket.round.closing) := by
        simp [node, nodes_eq_map, Bracket.opening, Bracket.closing, String.append_assoc]
      -- a child does not depend on what is open around it, so it may stand inside the call
      have hchildren : Neutral [.round]
          (joinWith ",\n" ((child :: rest).map (node (depth + 1)))) := by
        apply neutral_children
        intro n hn
        exact ih n hn (depth + 1) fun m hm => h m (Node.mem_preorder_of_child hn hm)
      have hline : Neutral [.round] "\n" := neutral_of_all_isNone (by decide)
      rw [hsplit]
      apply hhead.append
      apply Neutral.enclose
      exact (neutral_leadingAttributes hentries).append
        (hline.append (hchildren.append (hline.append (neutral_indent depth))))

/-! ## Bodies -/

theorem safeNode_of_hasSimpleNames {root n : Node} (hn : n ∈ root.descendants)
    (hnames : hasSimpleNames n) (hclasses : ∀ value ∈ root.classValues, isContained value) :
    SafeNode n := by
  cases n with
  | root children => cases hnames
  | text value => trivial
  | tag name as children =>
    rw [hasSimpleNames, Bool.and_eq_true, List.all_eq_true] at hnames
    refine ⟨hnames.1, fun e he => ⟨hnames.2 e he, fun hclass => hclasses e.2 ?_⟩⟩
    have htag : Node.tag name as children ∈ root.preorder := by
      rw [Node.preorder_eq_cons]
      exact List.mem_cons_of_mem _ hn
    have hget : as.get? "class" = some e.2 := hclass ▸ Attributes.get?_of_mem_entries he
    exact List.mem_filterMap.mpr ⟨(name, as), List.mem_filterMap.mpr ⟨_, htag, rfl⟩, hget⟩

theorem balanced_ofRoot {children : List Node}
    (h : ∀ n ∈ (Node.root children).descendants, SafeNode n) :
    balanced (ofRoot (.root children)) := by
  rw [balanced_iff_neutral, ofRoot, node, nodes_eq_map]
  apply neutral_children
  intro n hn
  exact neutral_node 0 fun m hm => h m (Node.mem_descendants.mpr ⟨n, hn, hm⟩)

/-- The tree of a single tag with a class. -/
def classTree (name value : String) : Node :=
  .root [.tag name ⟨[("class", value)], by simp⟩ []]

theorem hasSimpleNames_classTree {name : String} (hname : Identifier.isSimple name)
    (value : String) : ∀ n ∈ (classTree name value).descendants, hasSimpleNames n := by
  have hclass : Identifier.isSimple "class" := by decide
  simp [classTree, Node.descendants, Node.children, Node.listPreorder, Node.preorder,
    hasSimpleNames, hname, hclass]

theorem classValues_classTree (name value : String) :
    (classTree name value).classValues = [value] := by
  rfl

theorem balanced_classTree_iff {name value : String} (hname : Identifier.isSimple name) :
    balanced (ofRoot (classTree name value)) ↔ isContained value := by
  have hhandler : isHandler "class" = false := by decide
  have hsplit : ofRoot (classTree name value) = (indent 0 ++ name) ++ (Bracket.round.opening ++
      (Bracket.curly.opening ++ field "class" value ++ Bracket.curly.closing) ++
      Bracket.round.closing) := by
    simp [ofRoot, classTree, node, nodes, attributes, fields, hhandler, Attributes.isEmpty,
      joinWith, Bracket.opening, Bracket.closing, String.append_assoc]
  have hhead : Neutral [] (indent 0 ++ name) :=
    (neutral_indent 0).append (neutral_of_isSimple hname)
  rw [balanced_iff_neutral, hsplit, neutral_append_iff hhead, neutral_enclose_iff,
    neutral_enclose_iff, neutral_classField_iff]

/-- For which class values the body is balanced whatever tree with simple names they stand in: those
that are contained, such as those without quotes and brackets. -/
theorem balanced_ofRoot_iff (allowed : String → Prop) :
    ((∀ children, (∀ n ∈ (Node.root children).descendants, hasSimpleNames n) →
        (∀ value ∈ (Node.root children).classValues, allowed value) →
        balanced (ofRoot (.root children))) ↔
      ∀ value, allowed value → isContained value) ∧
    ∀ value, (∀ word ∈ words value, ∀ c ∈ word.toList, mark? c = none) → isContained value := by
  refine ⟨⟨fun h value hvalue => ?_, fun h children hnames hclasses => ?_⟩, fun value h => ?_⟩
  · -- a tag of its own is enough to tell whether a value is contained
    have hname : Identifier.isSimple "div" := by decide
    rw [← balanced_classTree_iff hname]
    apply h _ (hasSimpleNames_classTree hname value)
    rw [← classTree, classValues_classTree, List.forall_mem_singleton]
    exact hvalue
  · exact balanced_ofRoot fun n hn =>
      safeNode_of_hasSimpleNames hn (hnames n hn) fun value hv => h value (hclasses value hv)
  · exact isContained_of_not_mark h

/-- A closing bracket as a class is written as it is, and closes out of turn. -/
theorem classTree_not_balanced :
    (∀ n ∈ (classTree "div" ")").descendants, hasSimpleNames n) ∧
    ofRoot (classTree "div" ")") = "            div(\x7bc: [)]\x7d)" ∧
    balanced (ofRoot (classTree "div" ")")) = false :=
  ⟨hasSimpleNames_classTree (by decide) ")", by decide +kernel, by decide +kernel⟩

end Component.Body

end HtmlComponent
