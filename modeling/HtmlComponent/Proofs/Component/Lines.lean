import HtmlComponent.Component.Body
import HtmlComponent.Proofs.Node.Traversal
import HtmlComponent.Proofs.Text.Lines

/-!
# The lines of a body

A text and a tag without children take one line each, a tag with children takes one before and one
behind those of its children. Every line is indented by the depth of its node and by nothing else,
since no text, class or attribute can bring in a line feed. So a tree that stands deeper has the
same lines, all moved by the same number of spaces.
-/

namespace HtmlComponent

def Node.isRoot : Node → Bool
  | .root _ => true
  | _ => false

namespace Component.Body

/-! ## Trees as lines -/

def spaces (n : Nat) : String :=
  String.ofList (List.replicate n ' ')

/-- What stands on a line behind its indentation. -/
inductive Part where
  | literal (value : String)
  /-- A tag without children. -/
  | call (name : String) (attributes : Attributes)
  /-- A tag with children, up to these. -/
  | opening (name : String) (attributes : Attributes)
  /-- The end of a tag with children. -/
  | closing

def Part.text : Part → String
  | .literal value => Text.templateLiteral value
  | .call name as => name ++ "(" ++ attributes as ++ ")"
  | .opening name as => name ++ "(" ++ leadingAttributes as
  | .closing => ")"

structure Line where
  /-- How many tags the node of the line stands in. -/
  level : Nat
  part : Part
  /-- Whether another node follows. -/
  comma : Bool

def ending (comma : Bool) : String :=
  if comma then "," else ""

def Line.text (depth : Nat) (line : Line) : String :=
  spaces (12 + 4 * (depth + line.level)) ++ line.part.text ++ ending line.comma

mutual

def lines (level : Nat) (comma : Bool) : Node → List Line
  | .root children => listLines level comma children
  | .text value => [⟨level, .literal value, comma⟩]
  | .tag name as children =>
    if children.isEmpty then [⟨level, .call name as, comma⟩]
    else
      -- a comma behind the tag is on its last line
      ⟨level, .opening name as, false⟩ ::
        (listLines (level + 1) false children ++ [⟨level, .closing, comma⟩])

def listLines (level : Nat) (comma : Bool) : List Node → List Line
  | [] => []
  | child :: rest => lines level (comma || !rest.isEmpty) child ++ listLines level comma rest

end

theorem lines_ne_nil {n : Node} (h : n.isRoot = false) (level : Nat) (comma : Bool) :
    lines level comma n ≠ [] := by
  cases n with
  | root children => cases h
  | text value => simp [lines]
  | tag name as children =>
    rw [lines]
    split <;> exact List.cons_ne_nil _ _

theorem listLines_ne_nil {nodes : List Node} (hne : nodes ≠ [])
    (hroot : ∀ n ∈ nodes, n.isRoot = false) (level : Nat) (comma : Bool) :
    listLines level comma nodes ≠ [] := by
  cases nodes with
  | nil => exact absurd rfl hne
  | cons child rest =>
    rw [List.forall_mem_cons] at hroot
    rw [listLines]
    exact List.append_ne_nil_of_left_ne_nil (lines_ne_nil hroot.1 level _) _

/-! ## A body is made of its lines -/

theorem spaces_append (m n : Nat) : spaces m ++ spaces n = spaces (m + n) := by
  rw [spaces, spaces, spaces, ← String.ofList_append, List.replicate_append_replicate]

theorem indent_eq_spaces (depth : Nat) : indent depth = spaces (12 + 4 * depth) := by
  rw [indent, spaces, baseIndent, indentStep, Nat.mul_comm]

theorem joinWith_listLines {depth level : Nat} {nodes : List Node} (hne : nodes ≠ [])
    (hroot : ∀ n ∈ nodes, n.isRoot = false)
    (hlines : ∀ n ∈ nodes, ∀ comma,
      Text.joinWith "\n" ((lines level comma n).map (Line.text depth)) =
        node (depth + level) n ++ ending comma) (comma : Bool) :
    Text.joinWith "\n" ((listLines level comma nodes).map (Line.text depth)) =
      Text.joinWith ",\n" (nodes.map (node (depth + level))) ++ ending comma := by
  induction nodes with
  | nil => exact absurd rfl hne
  | cons child rest ih =>
    rw [List.forall_mem_cons] at hroot hlines
    rw [listLines]
    cases rest with
    | nil =>
      simp only [listLines, List.append_nil, List.isEmpty_nil, Bool.not_true, Bool.or_false]
      exact hlines.1 comma
    | cons next rest =>
      -- the comma between the two is the last thing on the line before
      have hcomma : (comma || !(next :: rest).isEmpty) = true := by simp
      have hrest := ih (List.cons_ne_nil next rest) hroot.2 hlines.2
      rw [List.map_append, Text.joinWith_append, hcomma, hlines.1, hrest, List.map_cons,
        List.map_cons, List.map_cons]
      · simp [Text.joinWith, ending, String.append_assoc]
      · simpa using lines_ne_nil hroot.1 level _
      · simpa using listLines_ne_nil (List.cons_ne_nil next rest) hroot.2 level comma

theorem joinWith_lines {n : Node} (hroot : ∀ m ∈ n.preorder, m.isRoot = false)
    (depth level : Nat) (comma : Bool) :
    Text.joinWith "\n" ((lines level comma n).map (Line.text depth)) =
      node (depth + level) n ++ ending comma := by
  induction n using Node.induction generalizing level comma with
  | root children => exact absurd (hroot _ (Node.mem_preorder_self _)) (by simp [Node.isRoot])
  | text value =>
    simp only [lines, List.map_cons, List.map_nil, Text.joinWith, Line.text, Part.text, node,
      indent_eq_spaces]
  | tag name as children ih =>
    have hchildren : ∀ child ∈ children, ∀ m ∈ child.preorder, m.isRoot = false :=
      fun child hchild m hm => hroot m (Node.mem_preorder_of_child hchild hm)
    have htops : ∀ child ∈ children, child.isRoot = false :=
      fun child hchild => hchildren child hchild child (Node.mem_preorder_self child)
    cases children with
    | nil =>
      simp only [lines, List.isEmpty_nil, ↓reduceIte, List.map_cons, List.map_nil, Text.joinWith,
        Line.text, Part.text, node, indent_eq_spaces, String.append_assoc]
    | cons child rest =>
      -- the children are one level down, and no comma follows the last of them
      have hjoined := joinWith_listLines (List.cons_ne_nil child rest) htops
        (fun n hn comma => ih n hn (hchildren n hn) (level + 1) comma) false
      have hne : (listLines (level + 1) false (child :: rest)).map (Line.text depth) ≠ [] := by
        simpa using listLines_ne_nil (List.cons_ne_nil child rest) htops (level + 1) false
      rw [lines, List.isEmpty_cons, if_neg Bool.false_ne_true, List.map_cons, List.map_append,
        ← List.singleton_append, Text.joinWith_append _ (List.cons_ne_nil _ _) (by simp [hne]),
        Text.joinWith_append _ hne (by simp), hjoined, node, nodes_eq_map]
      simp only [Text.joinWith, List.map_cons, List.map_nil, Line.text, Part.text, ending,
        indent_eq_spaces, String.append_assoc, Nat.add_assoc, Bool.false_eq_true, ↓reduceIte,
        String.append_empty]

/-! ## Lines hold no line feed -/

/-- A key is quoted if its name has a hyphen, and only then may the name have a line feed. -/
def keepsLine (name : String) : Bool :=
  name.toList.contains '-' || !name.toList.contains '\n'

/-- Whether the names of a node can stand in a line: that of a tag starts with something other than
a space and has no line feed, those of its attributes have none unless they have a hyphen. -/
def keepsLines : Node → Bool
  | .tag name as _ =>
    name.toList.head?.any (· != ' ') && !name.toList.contains '\n' && as.names.all keepsLine
  | _ => true

theorem oneLine_key {name : String} (h : keepsLine name) : Text.OneLine (key name) := by
  unfold key
  split
  · exact Text.oneLine_jsonString name
  · rename_i hhyphen
    rw [keepsLine, Bool.or_eq_true] at h
    rcases h with h | h
    · exact absurd h hhyphen
    · simpa [Text.OneLine] using h

theorem oneLine_field {name : String} (h : keepsLine name) (value : String) :
    Text.OneLine (field name value) := by
  unfold field
  split
  · -- the words of a class lie between blanks, and a line feed is one
    have hwords : Text.OneLine (Identifier.importList (Text.words value)) :=
      Text.oneLine_importList fun _ hword => Text.oneLine_of_isWord (Text.isWord_of_mem_words hword)
    exact Text.oneLine_append.mpr ⟨Text.oneLine_append.mpr ⟨by decide, hwords⟩, by decide⟩
  · exact Text.oneLine_append.mpr ⟨Text.oneLine_append.mpr ⟨oneLine_key h, by decide⟩,
      Text.oneLine_templateLiteral value⟩

theorem oneLine_attributes {as : Attributes} (h : ∀ name ∈ as.names, keepsLine name) :
    Text.OneLine (attributes as) := by
  unfold attributes
  split
  · decide
  · have hfields : Text.OneLine (Text.joinWith ", " (fields as.entries)) := by
      apply Text.oneLine_joinWith (by decide)
      intro text htext
      rcases List.mem_map.mp htext with ⟨e, he, rfl⟩
      exact oneLine_field (h e.1 (List.mem_map_of_mem (List.mem_filter.mp he).1)) e.2
    exact Text.oneLine_append.mpr ⟨Text.oneLine_append.mpr ⟨by decide, hfields⟩, by decide⟩

theorem oneLine_leadingAttributes {as : Attributes} (h : ∀ name ∈ as.names, keepsLine name) :
    Text.OneLine (leadingAttributes as) := by
  unfold leadingAttributes
  split
  · decide
  · exact Text.oneLine_append.mpr ⟨oneLine_attributes h, by decide⟩

/-- The text is on one line and starts with something other than a space. -/
def StartsLine (s : String) : Prop :=
  Text.OneLine s ∧ ∃ c cs, s.toList = c :: cs ∧ c ≠ ' '

theorem StartsLine.append {s t : String} (hs : StartsLine s) (ht : Text.OneLine t) :
    StartsLine (s ++ t) := by
  rcases hs with ⟨hline, c, cs, hcs, hc⟩
  refine ⟨Text.oneLine_append.mpr ⟨hline, ht⟩, c, cs ++ t.toList, ?_, hc⟩
  rw [String.toList_append, hcs, List.cons_append]

/-- What a node writes on its own lines. -/
def parts : Node → List Part
  | .root _ => []
  | .text value => [.literal value]
  | .tag name as children =>
    if children.isEmpty then [.call name as] else [.opening name as, .closing]

theorem startsLine_closing : StartsLine ")" :=
  ⟨by decide, ')', [], rfl, by decide⟩

theorem startsLine_of_mem_parts {n : Node} (h : keepsLines n) {part : Part}
    (hpart : part ∈ parts n) : StartsLine part.text := by
  cases n with
  | root children => exact absurd hpart List.not_mem_nil
  | text value =>
    rw [parts, List.mem_singleton] at hpart
    rw [hpart]
    refine ⟨Text.oneLine_templateLiteral value, '\x60', _, Text.toList_templateLiteral value, ?_⟩
    decide
  | tag name as children =>
    simp only [keepsLines, Bool.and_eq_true, Bool.not_eq_true', List.all_eq_true] at h
    rcases h with ⟨⟨hstart, hfeed⟩, hnames⟩
    have hname : StartsLine (name ++ "(") := by
      refine StartsLine.append ⟨by simpa [Text.OneLine] using hfeed, ?_⟩ (by decide)
      cases hcs : name.toList with
      | nil => simp [hcs] at hstart
      | cons c cs => exact ⟨c, cs, rfl, by simpa [hcs] using hstart⟩
    rw [parts] at hpart
    split at hpart
    · rw [List.mem_singleton] at hpart
      rw [hpart]
      exact (hname.append (oneLine_attributes hnames)).append (by decide)
    · rw [List.mem_cons, List.mem_singleton] at hpart
      rcases hpart with rfl | rfl
      · exact hname.append (oneLine_leadingAttributes hnames)
      · exact startsLine_closing

theorem exists_of_mem_listLines {level : Nat} {comma : Bool} {nodes : List Node} {line : Line}
    (h : line ∈ listLines level comma nodes) :
    ∃ n ∈ nodes, ∃ comma, line ∈ lines level comma n := by
  induction nodes with
  | nil => exact absurd h List.not_mem_nil
  | cons child rest ih =>
    rw [listLines] at h
    rcases List.mem_append.mp h with h | h
    · exact ⟨child, List.mem_cons_self, _, h⟩
    · rcases ih h with ⟨n, hn, hline⟩
      exact ⟨n, List.mem_cons_of_mem _ hn, hline⟩

/-- Every line is that of a node of the tree. -/
theorem exists_node_of_mem_lines {n : Node} {level : Nat} {comma : Bool} {line : Line}
    (h : line ∈ lines level comma n) : ∃ m ∈ n.preorder, line.part ∈ parts m := by
  induction n using Node.induction generalizing level comma with
  | root children ih =>
    rcases exists_of_mem_listLines h with ⟨child, hchild, comma, hline⟩
    rcases ih child hchild hline with ⟨m, hm, hpart⟩
    exact ⟨m, Node.mem_preorder_of_child hchild hm, hpart⟩
  | text value =>
    rw [lines, List.mem_singleton] at h
    exact ⟨_, Node.mem_preorder_self _, by simp [h, parts]⟩
  | tag name as children ih =>
    rw [lines] at h
    split at h
    · rename_i hempty
      rw [List.mem_singleton] at h
      exact ⟨_, Node.mem_preorder_self _, by simp [h, parts, hempty]⟩
    · rename_i hempty
      rw [List.mem_cons, List.mem_append, List.mem_singleton] at h
      rcases h with h | h | h
      · exact ⟨_, Node.mem_preorder_self _, by simp [h, parts, hempty]⟩
      · rcases exists_of_mem_listLines h with ⟨child, hchild, comma, hline⟩
        rcases ih child hchild hline with ⟨m, hm, hpart⟩
        exact ⟨m, Node.mem_preorder_of_child hchild hm, hpart⟩
      · exact ⟨_, Node.mem_preorder_self _, by simp [h, parts, hempty]⟩

theorem startsLine_of_mem_lines {n : Node} (h : ∀ m ∈ n.preorder, keepsLines m) {level : Nat}
    {comma : Bool} {line : Line} (hline : line ∈ lines level comma n) :
    StartsLine (line.part.text ++ ending line.comma) := by
  rcases exists_node_of_mem_lines hline with ⟨m, hm, hpart⟩
  apply (startsLine_of_mem_parts (h m hm) hpart).append
  unfold ending
  split <;> decide

/-! ## Bodies -/

theorem lines_ne_nil_of_ne_root {n : Node} (hne : n ≠ .root [])
    (hinner : ∀ m ∈ n.descendants, m.isRoot = false) (level : Nat) (comma : Bool) :
    lines level comma n ≠ [] := by
  cases n with
  | root children =>
    apply listLines_ne_nil (by simpa using hne)
    intro child hchild
    exact hinner child (Node.mem_descendants.mpr ⟨child, hchild, Node.mem_preorder_self child⟩)
  | text value => exact lines_ne_nil rfl level comma
  | tag name as children => exact lines_ne_nil rfl level comma

theorem node_eq_joinWith {n : Node} (hne : n ≠ .root [])
    (hinner : ∀ m ∈ n.descendants, m.isRoot = false) (depth : Nat) :
    node depth n = Text.joinWith "\n" ((lines 0 false n).map (Line.text depth)) := by
  have hending : ending false = "" := rfl
  by_cases hroot : n.isRoot = true
  · cases n with
    | root children =>
      have hchildren : ∀ child ∈ children, ∀ m ∈ child.preorder, m.isRoot = false :=
        fun child hchild m hm => hinner m (Node.mem_descendants.mpr ⟨child, hchild, hm⟩)
      have htops : ∀ child ∈ children, child.isRoot = false :=
        fun child hchild => hchildren child hchild child (Node.mem_preorder_self child)
      have hlines : ∀ child ∈ children, ∀ comma,
          Text.joinWith "\n" ((lines 0 comma child).map (Line.text depth)) =
            node (depth + 0) child ++ ending comma :=
        fun child hchild comma => joinWith_lines (hchildren child hchild) depth 0 comma
      have hjoined := joinWith_listLines (by simpa using hne) htops hlines false
      rw [node, nodes_eq_map, lines, hjoined, hending, String.append_empty, Nat.add_zero]
    | text value => cases hroot
    | tag name as children => cases hroot
  · have hnone : ∀ m ∈ n.preorder, m.isRoot = false := by
      rw [Node.preorder_eq_cons]
      exact List.forall_mem_cons.mpr ⟨Bool.not_eq_true _ ▸ hroot, hinner⟩
    rw [joinWith_lines hnone, hending, String.append_empty, Nat.add_zero]

theorem spaces_append_text (depth k : Nat) (line : Line) :
    spaces (4 * k) ++ line.text depth = line.text (depth + k) := by
  have hsum : 4 * k + (12 + 4 * (depth + line.level)) = 12 + 4 * (depth + k + line.level) := by
    omega
  rw [Line.text, Line.text, String.append_assoc, ← String.append_assoc, spaces_append, hsum,
    String.append_assoc]

/-- The lines of a body, as they come from the tree: each is indented by four spaces for every tag
around its node and by as many for the depth, with twelve at the least. A greater depth puts spaces
before every line and changes nothing else. -/
theorem splitLines_node {n : Node} (hne : n ≠ .root [])
    (hinner : ∀ m ∈ n.descendants, m.isRoot = false) (hnames : ∀ m ∈ n.preorder, keepsLines m)
    (depth : Nat) :
    Text.splitLines (node depth n) = (lines 0 false n).map (Line.text depth) ∧
    (∀ line ∈ lines 0 false n, ∃ c cs, c ≠ ' ' ∧ (line.text depth).toList =
      List.replicate (12 + 4 * (depth + line.level)) ' ' ++ c :: cs) ∧
    ∀ k, node (depth + k) n = Text.joinWith "\n"
      ((Text.splitLines (node depth n)).map fun line => spaces (4 * k) ++ line) := by
  have hstarts : ∀ line ∈ lines 0 false n, StartsLine (line.part.text ++ ending line.comma) :=
    fun line hline => startsLine_of_mem_lines hnames hline
  have hsplit : Text.splitLines (node depth n) = (lines 0 false n).map (Line.text depth) := by
    rw [node_eq_joinWith hne hinner]
    apply Text.splitLines_joinWith
    · intro text htext
      rcases List.mem_map.mp htext with ⟨line, hline, rfl⟩
      rw [Line.text, String.append_assoc]
      exact Text.oneLine_append.mpr ⟨Text.oneLine_spaces _, (hstarts line hline).1⟩
    · simpa using lines_ne_nil_of_ne_root hne hinner 0 false
  refine ⟨hsplit, fun line hline => ?_, fun k => ?_⟩
  · rcases (hstarts line hline).2 with ⟨c, cs, hcs, hc⟩
    refine ⟨c, cs, hc, ?_⟩
    rw [Line.text, String.append_assoc, String.toList_append, hcs, spaces, String.toList_ofList]
  · rw [hsplit, List.map_map, node_eq_joinWith hne hinner]
    congr 1
    apply List.map_congr_left
    intro line _
    exact (spaces_append_text depth k line).symm

/-- Line feeds in a text, a class, a value, a handler and a name with a hyphen. -/
def feedTree : Node :=
  .root [.tag "div" (.ofPairs [("class", "a\nb"), ("data-\nx", "y\nz"), ("onclick", "f();\n")])
    [.text "1\n 2", .tag "p" (.ofPairs [("on", "")]) [.tag "br" .empty []]], .text "\n"]

theorem splitLines_feedTree :
    Text.splitLines (node 1 feedTree) =
      ["                div(\x7bc: [a, b], \"data-\\nx\": \x60y\\nz\x60\x7d,",
        "                    \x601\\n 2\x60,", "                    p(\x7b\x7d,",
        "                        br()", "                    )", "                ),",
        "                \x60\\n\x60"] ∧
    (lines 0 false feedTree).map Line.level = [0, 1, 1, 2, 1, 0, 0] ∧
    ∀ k, node (1 + k) feedTree = Text.joinWith "\n"
      ((Text.splitLines (node 1 feedTree)).map fun line => spaces (4 * k) ++ line) := by
  have hne : feedTree ≠ .root [] := by simp [feedTree]
  have hinner : ∀ m ∈ feedTree.descendants, m.isRoot = false := by decide +kernel
  have hnames : ∀ m ∈ feedTree.preorder, keepsLines m := by decide +kernel
  rcases splitLines_node hne hinner hnames 1 with ⟨hlines, -, hdeeper⟩
  refine ⟨?_, by decide +kernel, hdeeper⟩
  rw [hlines]
  decide +kernel

end Component.Body

end HtmlComponent
