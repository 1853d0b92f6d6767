import Mathlib.Data.List.Basic
import HtmlComponent.Proofs.Component.Outline
import HtmlComponent.Proofs.Text.Words

/-!
# Bodies are uniquely readable

Every piece of a body is read back by its reader, whatever follows it. A name ends where a character
comes that is not plain, everything else carries its own end. By induction over the tree the body as
a whole is read back, so two trees with one body have one outline.
-/

namespace HtmlComponent.Component.Body

/-- The reader takes this text for this value, whenever it goes on as it may. -/
def Reads {α : Type} (mayFollow : List Char → Prop) (item : List Char → Option (α × List Char))
    (text : String) (value : α) : Prop :=
  ∀ rest, mayFollow rest → item (text.toList ++ rest) = some (value, rest)

/-- The text does not start with a plain character. -/
def EndsWord (s : List Char) : Prop :=
  ∀ c ∈ s.head?, isPlainChar c = false

theorem endsWord_cons {c : Char} (h : isPlainChar c = false) (s : List Char) :
    EndsWord (c :: s) := by
  intro d hd
  simp only [List.head?_cons, Option.mem_def, Option.some.injEq] at hd
  rwa [← hd]

theorem dropPrefix?_append (t s : List Char) : (t ++ s).dropPrefix? t = some s :=
  List.dropPrefix?_append_of_beq s BEq.rfl

/-! ## Words -/

theorem all_isPlainChar {name : String} (h : isPlain name) : ∀ c ∈ name.toList, isPlainChar c := by
  simp only [isPlain, Bool.and_eq_true, List.all_eq_true] at h
  exact h.2

theorem toList_ne_nil {name : String} (h : isPlain name) : name.toList ≠ [] := by
  simp only [isPlain, Bool.and_eq_true, Bool.not_eq_true', List.isEmpty_eq_false_iff] at h
  exact h.1

theorem takeWhile_plain {w s : List Char} (hw : ∀ c ∈ w, isPlainChar c) (hs : EndsWord s) :
    (w ++ s).takeWhile isPlainChar = w :=
  Text.takeWhile_run hw hs

theorem dropWhile_plain {w s : List Char} (hw : ∀ c ∈ w, isPlainChar c) (hs : EndsWord s) :
    (w ++ s).dropWhile isPlainChar = s :=
  Text.dropWhile_run hw hs

theorem reads_word {name : String} (h : isPlain name) : Reads EndsWord readWord name name := by
  intro rest hrest
  have hne : name.toList.isEmpty = false := List.isEmpty_eq_false_iff.mpr (toList_ne_nil h)
  unfold readWord
  rw [takeWhile_plain (all_isPlainChar h) hrest, dropWhile_plain (all_isPlainChar h) hrest, hne,
    String.ofList_toList]
  rfl

theorem isPlain_sanitize {name : String} (h : isPlain name) :
    isPlain (Identifier.sanitize name) := by
  have hall := all_isPlainChar h
  have hne := toList_ne_nil h
  simp only [isPlain, Identifier.sanitize, String.toList_ofList, Bool.and_eq_true,
    Bool.not_eq_true', List.isEmpty_eq_false_iff, List.all_eq_true, List.mem_map]
  refine ⟨by simpa using hne, ?_⟩
  rintro _ ⟨c, hc, rfl⟩
  split
  · decide
  · exact hall c hc

/-! ## Separated items -/

theorem joinWith_cons_cons (separator s t : String) (rest : List String) :
    Text.joinWith separator (s :: t :: rest) =
      s ++ separator ++ Text.joinWith separator (t :: rest) :=
  rfl

/-- Each item but the first takes a separator with it, so their number is bounded by the length. -/
theorem length_le_length_joinWith {separator : String} (hsep : separator.toList ≠ [])
    (texts : List String) : texts.length ≤ (Text.joinWith separator texts).toList.length + 1 := by
  have hpos := List.length_pos_iff.mpr hsep
  induction texts with
  | nil => simp
  | cons s rest ih =>
    cases rest with
    | nil => simp
    | cons t rest =>
      rw [joinWith_cons_cons, String.toList_append, String.toList_append, List.length_append,
        List.length_append, List.length_cons]
      omega

theorem length_mem_le_length_joinWith (separator : String) {text : String} {texts : List String}
    (h : text ∈ texts) : text.toList.length ≤ (Text.joinWith separator texts).toList.length := by
  induction texts with
  | nil => exact absurd h List.not_mem_nil
  | cons s rest ih =>
    cases rest with
    | nil =>
      rw [List.mem_singleton.mp h]
      exact Nat.le_refl _
    | cons t rest =>
      rw [joinWith_cons_cons, String.toList_append, String.toList_append, List.length_append,
        List.length_append]
      rcases List.mem_cons.mp h with rfl | h
      · omega
      · have := ih h
        omega

section

variable {α β : Type} {item : List Char → Option (α × List Char)} {mayFollow : List Char → Prop}
  {text : β → String} {value : β → α}

theorem readItems_joinWith {separator : String}
    (hsep : ∀ s, mayFollow (separator.toList ++ s)) {rest : List Char} (hrest : mayFollow rest)
    (hend : rest.dropPrefix? separator.toList = none) {xs : List β} (hne : xs ≠ [])
    (hitem : ∀ x ∈ xs, Reads mayFollow item (text x) (value x)) {fuel : Nat}
    (hfuel : xs.length ≤ fuel) :
    readItems item separator.toList fuel
        ((Text.joinWith separator (xs.map text)).toList ++ rest) = some (xs.map value, rest) := by
  induction xs generalizing fuel with
  | nil => exact absurd rfl hne
  | cons x xs ih =>
    obtain ⟨fuel, rfl⟩ : ∃ n, fuel = n + 1 := ⟨fuel - 1, by rw [List.length_cons] at hfuel; omega⟩
    have hx := hitem x List.mem_cons_self
    cases xs with
    | nil =>
      -- the last item has no separator behind it, so reading stops here
      show readItems item _ _ ((text x).toList ++ rest) = _
      rw [readItems, hx rest hrest]
      simp only [hend]
      rfl
    | cons y ys =>
      have ih := ih (List.cons_ne_nil y ys) (fun z hz => hitem z (List.mem_cons_of_mem _ hz))
        (show (y :: ys).length ≤ fuel by rw [List.length_cons] at hfuel; omega)
      rw [List.map_cons] at ih
      rw [List.map_cons, List.map_cons, joinWith_cons_cons, String.toList_append,
        String.toList_append, List.append_assoc, List.append_assoc, readItems, hx _ (hsep _)]
      simp only [dropPrefix?_append, ih]
      rfl

theorem readSeparated_joinWith {separator : String} (hne : separator.toList ≠ [])
    (hsep : ∀ s, mayFollow (separator.toList ++ s)) {rest : List Char} (hrest : mayFollow rest)
    (hend : rest.dropPrefix? separator.toList = none) {xs : List β} (hxs : xs ≠ [])
    (hitem : ∀ x ∈ xs, Reads mayFollow item (text x) (value x)) :
    readSeparated item separator.toList ((Text.joinWith separator (xs.map text)).toList ++ rest) =
      some (xs.map value, rest) := by
  apply readItems_joinWith hsep hrest hend hxs hitem
  -- the fuel is the length of the input, which is enough for its items
  have h := length_le_length_joinWith hne (xs.map text)
  rw [List.length_map] at h
  rw [List.length_append]
  omega

/-- Items between brackets are read back if none of them starts like the closing bracket. -/
theorem readEnclosed_joinWith {close : Char} (hsep : ∀ s, mayFollow (", ".toList ++ s))
    (hclose : ∀ s, mayFollow (close :: s)) (hcomma : close ≠ ',') (rest : List Char) {xs : List β}
    (hitem : ∀ x ∈ xs, Reads mayFollow item (text x) (value x))
    (hhead : ∀ x ∈ xs, (text x).toList ≠ [] ∧ (text x).toList.head? ≠ some close) :
    readEnclosed item close ((Text.joinWith ", " (xs.map text)).toList ++ close :: rest) =
      some (xs.map value, rest) := by
  cases xs with
  | nil => simp [readEnclosed, Text.joinWith]
  | cons x xs =>
    have hfirst : ((Text.joinWith ", " ((x :: xs).map text)).toList ++ close :: rest).head? ≠
        some close := by
      rcases hhead x List.mem_cons_self with ⟨hne, hc⟩
      rcases List.exists_cons_of_ne_nil hne with ⟨c, cs, hx⟩
      rw [hx, List.head?_cons] at hc
      cases xs <;> simpa [Text.joinWith, hx] using hc
    have hend : (close :: rest).dropPrefix? ", ".toList = none := by
      simp [List.dropPrefix?, hcomma]
    unfold readEnclosed
    rw [if_neg (by simpa using hfirst),
      readSeparated_joinWith (by decide) hsep (hclose rest) hend (List.cons_ne_nil x xs) hitem]
    simp [List.dropPrefix?]

end

/-! ## Fields -/

theorem reads_text (value : String) :
    Reads (fun _ => True) readText (Text.templateLiteral value) value := by
  intro rest _
  rw [Text.toList_templateLiteral, List.cons_append, List.append_assoc]
  simp only [readText, List.singleton_append, Text.readLiteral_flatMap, Option.map_some,
    String.ofList_toList]

theorem ofList_concat_dropLast (name : String) (c : Char) :
    String.ofList (name.toList ++ [c]).dropLast = name := by
  rw [List.dropLast_concat, String.ofList_toList]

theorem reads_quoted_key (name : String) :
    Reads (fun _ => True) readKey (Text.jsonString name ++ ": ") name := by
  intro rest _
  rcases Text.stringBody_jsonInner name.toList (": ".toList ++ rest) with ⟨h, hread⟩
  rw [Text.jsonString, String.toList_append, String.toList_ofList]
  simp only [List.cons_append, List.append_assoc, List.nil_append, readKey]
  rw [hread]
  simp only [dropPrefix?_append, Option.map_some, String.ofList_toList]

theorem reads_bare_key {name : String} (h : isPlain name) :
    Reads (fun _ => True) readKey (name ++ ": ") name := by
  intro rest _
  have hall : ∀ c ∈ name.toList ++ [':'], isPlainChar c := by
    intro c hc
    rcases List.mem_append.mp hc with hc | hc
    · exact all_isPlainChar h c hc
    · rw [List.mem_singleton.mp hc]; decide
  have hends : EndsWord (' ' :: rest) := endsWord_cons (by decide) rest
  have hsplit : (name ++ ": ").toList ++ rest = name.toList ++ [':'] ++ ' ' :: rest := by
    simp
  rw [hsplit, readKey]
  · rw [takeWhile_plain hall hends, dropWhile_plain hall hends, List.getLast?_concat]
    simp only [ofList_concat_dropLast]
  · -- a plain name does not start with a quote
    intro s hs
    rcases List.exists_cons_of_ne_nil (toList_ne_nil h) with ⟨c, cs, hname⟩
    have hc := all_isPlainChar h c (by rw [hname]; exact List.mem_cons_self)
    rw [hname, List.cons_append, List.cons_append, List.cons.injEq] at hs
    rw [hs.1] at hc
    exact absurd hc (by decide)

theorem reads_key {name : String} (h : isPlain name) :
    Reads (fun _ => True) readKey (key name ++ ": ") name := by
  unfold key
  split
  · exact reads_quoted_key name
  · exact reads_bare_key h

/-- The start of a class field is no start of another field, not even of one named `c`. -/
theorem dropPrefix?_class_key {name : String} (h : isPlain name) (s : List Char) :
    ((key name ++ ": ").toList ++ '\x60' :: s).dropPrefix? "c: [".toList = none := by
  unfold key
  split
  · simp [Text.jsonString, List.dropPrefix?]
  have hall := all_isPlainChar h
  rcases List.exists_cons_of_ne_nil (toList_ne_nil h) with ⟨c, cs, hname⟩
  rw [String.toList_append, hname]
  rw [hname] at hall
  -- after a bare `c` stands a literal instead of a list, and no longer name has a blank in it
  cases cs with
  | nil => simp [List.dropPrefix?]
  | cons d cs =>
    cases cs with
    | nil => simp [List.dropPrefix?]
    | cons e cs =>
      have he : e ≠ ' ' := by
        rintro rfl
        exact absurd (hall ' ' (by simp)) (by decide)
      simp [List.dropPrefix?, he]

theorem reads_class {value : String} (h : ∀ word ∈ Text.words value, isPlain word) :
    Reads (fun _ => True) readField (field "class" value)
      (.classes ((Text.words value).map Identifier.sanitize)) := by
  intro rest _
  have hread : readEnclosed readWord ']'
      ((Identifier.importList (Text.words value)).toList ++ ']' :: rest) =
        some ((Text.words value).map Identifier.sanitize, rest) := by
    apply readEnclosed_joinWith (fun s => endsWord_cons (by decide) _)
      (fun s => endsWord_cons (by decide) s) (by decide)
    · intro word hword
      exact reads_word (isPlain_sanitize (h word hword))
    · intro word hword
      have hplain := isPlain_sanitize (h word hword)
      refine ⟨toList_ne_nil hplain, fun hhead => ?_⟩
      have hc := all_isPlainChar hplain ']' (List.mem_of_head? hhead)
      exact absurd hc (by decide)
  have hsplit : (field "class" value).toList ++ rest = "c: [".toList ++
      ((Identifier.importList (Text.words value)).toList ++ ']' :: rest) := by
    simp [field]
  rw [hsplit, readField, dropPrefix?_append]
  simp only [hread, Option.map_some]

theorem reads_value {name value : String} (hclass : name ≠ "class") (h : isPlain name) :
    Reads (fun _ => True) readField (field name value) (.value name value) := by
  intro rest _
  have hsplit : (field name value).toList ++ rest =
      (key name ++ ": ").toList ++ ((Text.templateLiteral value).toList ++ rest) := by
    simp [field, hclass]
  have hnone : ((field name value).toList ++ rest).dropPrefix? "c: [".toList = none := by
    rw [hsplit, Text.toList_templateLiteral]
    exact dropPrefix?_class_key h _
  rw [readField, hnone, hsplit, reads_key h _ trivial]
  simp only [reads_text value rest trivial, Option.map_some]

/-- A name and its value are plain as far as they are shown bare. -/
def PlainEntry (e : String × String) : Prop :=
  isPlain e.1 ∧ (e.1 = "class" → ∀ word ∈ Text.words e.2, isPlain word)

theorem reads_field {e : String × String} (h : PlainEntry e) :
    Reads (fun _ => True) readField (field e.1 e.2) (Field.ofEntry e.1 e.2) := by
  unfold Field.ofEntry
  -- a class is the one field that is shown by its identifiers
  by_cases hclass : e.1 = "class"
  · rw [if_pos hclass, hclass]
    exact reads_class (h.2 hclass)
  · rw [if_neg hclass]
    exact reads_value hclass h.1

theorem head?_field {e : String × String} (h : PlainEntry e) :
    (field e.1 e.2).toList ≠ [] ∧ (field e.1 e.2).toList.head? ≠ some '\x7d' := by
  by_cases hclass : e.1 = "class"
  · simp [field, hclass]
  unfold field key
  rw [if_neg hclass]
  split
  · simp [Text.jsonString]
  · rcases List.exists_cons_of_ne_nil (toList_ne_nil h.1) with ⟨c, cs, hname⟩
    have hc : isPlainChar c := all_isPlainChar h.1 c (by rw [hname]; exact List.mem_cons_self)
    refine ⟨by simp [hname], fun hhead => ?_⟩
    have hbrace : c = '\x7d' := by simpa [hname] using hhead
    rw [hbrace] at hc
    exact absurd hc (by decide)

/-! ## Calls -/

theorem plain_of_hasPlainNames {name : String} {as : Attributes} {children : List Node}
    (h : hasPlainNames (.tag name as children)) :
    isPlain name ∧ ∀ e ∈ as.entries, PlainEntry e := by
  simp only [hasPlainNames, Bool.and_eq_true, List.all_eq_true] at h
  refine ⟨h.1, fun e he => ⟨(h.2 e he).1, fun hclass => ?_⟩⟩
  simpa [hclass] using (h.2 e he).2

theorem readEnclosed_fields {entries : List (String × String)} (h : ∀ e ∈ entries, PlainEntry e)
    (rest : List Char) :
    readEnclosed readField '\x7d' ((Text.joinWith ", " (fields entries)).toList ++ '\x7d' :: rest) =
      some ((entries.filter fun e => !isHandler e.1).map fun e => Field.ofEntry e.1 e.2, rest) := by
  have hplain : ∀ e ∈ entries.filter fun e => !isHandler e.1, PlainEntry e :=
    fun e he => h e (List.mem_filter.mp he).1
  exact readEnclosed_joinWith (fun _ => trivial) (fun _ => trivial) (by decide) rest
    (fun e he => reads_field (hplain e he)) (fun e he => head?_field (hplain e he))

/-- The start of a call is read back if no object follows it that is not its own. -/
theorem readHead_attributes {name : String} {as : Attributes} (hname : isPlain name)
    (hentries : ∀ e ∈ as.entries, PlainEntry e) {c : Char} (hc : c ≠ '\x7b') (s : List Char) :
    readHead ((name ++ "(" ++ attributes as).toList ++ c :: s) =
      some ((name, Field.ofAttributes? as), c :: s) := by
  have hword := reads_word hname ('(' :: ((attributes as).toList ++ c :: s))
    (endsWord_cons (by decide) _)
  have hsplit : (name ++ "(" ++ attributes as).toList ++ c :: s =
      name.toList ++ '(' :: ((attributes as).toList ++ c :: s) := by simp
  rw [hsplit, readHead, hword]
  unfold attributes Field.ofAttributes?
  by_cases hempty : as.isEmpty
  · rw [if_pos hempty, if_pos hempty]
    simp only [String.toList_empty, List.nil_append]
    -- the branch for an object is ruled out by `hc`
    split <;> simp_all
  · rw [if_neg hempty, if_neg hempty]
    have hfields := readEnclosed_fields hentries (c :: s)
    simp only [String.toList_append, List.append_assoc]
    simp [hfields]

theorem toList_leadingAttributes (as : Attributes) :
    (leadingAttributes as ++ "\n").toList =
      (attributes as).toList ++ childrenMark (Field.ofAttributes? as) := by
  unfold leadingAttributes attributes childrenMark Field.ofAttributes?
  split <;> simp

theorem node_tag_cons (depth : Nat) (name : String) (as : Attributes) (child : Node)
    (rest : List Node) :
    (node depth (.tag name as (child :: rest))).toList =
      (indent depth).toList ++ ((name ++ "(" ++ attributes as).toList ++
        (childrenMark (Field.ofAttributes? as) ++
          ((Text.joinWith ",\n" ((child :: rest).map (node (depth + 1)))).toList ++
            closingMark depth))) := by
  rw [← List.append_assoc (name ++ "(" ++ attributes as).toList, String.toList_append,
    List.append_assoc _ (attributes as).toList, ← toList_leadingAttributes]
  rw [node, nodes_eq_map, closingMark]
  simp only [String.toList_append, List.append_assoc, List.map_cons]
  rfl

/-! ## Nodes -/

theorem head?_call_ne_mark {name : String} (h : isPlain name) (as : Attributes) (s : List Char) :
    ((name ++ "(" ++ attributes as).toList ++ s).head? ≠ some '\x60' := by
  rcases List.exists_cons_of_ne_nil (toList_ne_nil h) with ⟨c, cs, hname⟩
  have hc : isPlainChar c := all_isPlainChar h c (by rw [hname]; exact List.mem_cons_self)
  intro hhead
  have hmark : c = '\x60' := by simpa [hname] using hhead
  rw [hmark] at hc
  exact absurd hc (by decide)

theorem readNode_text (levels depth : Nat) (value : String) :
    Reads (fun _ => True) (readNode (levels + 1) depth) (node depth (.text value))
      (.text value) := by
  intro rest _
  have hread := reads_text value rest trivial
  have hhead : ((Text.templateLiteral value).toList ++ rest).head? = some '\x60' := by
    rw [Text.toList_templateLiteral]
    rfl
  rw [node, String.toList_append, List.append_assoc, readNode, dropPrefix?_append]
  simp only [hhead, hread, beq_self_eq_true, ↓reduceIte, Option.map_some]

theorem readNode_leaf (levels depth : Nat) {name : String} {as : Attributes} (hname : isPlain name)
    (hentries : ∀ e ∈ as.entries, PlainEntry e) :
    Reads (fun _ => True) (readNode (levels + 1) depth) (node depth (.tag name as []))
      (.call name (Field.ofAttributes? as) []) := by
  intro rest _
  have hread := readHead_attributes hname hentries (show ')' ≠ '\x7b' by decide) rest
  have hhead := head?_call_ne_mark hname as (')' :: rest)
  have hsplit : (node depth (.tag name as [])).toList ++ rest =
      (indent depth).toList ++ ((name ++ "(" ++ attributes as).toList ++ ')' :: rest) := by
    simp [node]
  rw [hsplit, readNode, dropPrefix?_append]
  simp only [beq_iff_eq, if_neg hhead, hread, List.head?_cons, ↓reduceIte, List.tail_cons]

theorem childrenMark_eq_cons (fields : Option (List Field)) :
    ∃ c t, childrenMark fields = c :: t ∧ c ≠ '\x7b' ∧ c ≠ ')' := by
  unfold childrenMark
  split
  · exact ⟨',', ['\n'], rfl, by decide, by decide⟩
  · exact ⟨'\n', [], rfl, by decide, by decide⟩

theorem readNode_parent (levels depth : Nat) {name : String} {as : Attributes}
    (hname : isPlain name) (hentries : ∀ e ∈ as.entries, PlainEntry e) {child : Node}
    {rest : List Node} (hchildren : ∀ n ∈ child :: rest,
      Reads (fun _ => True) (readNode levels (depth + 1)) (node (depth + 1) n) n.outline) :
    Reads (fun _ => True) (readNode (levels + 1) depth) (node depth (.tag name as (child :: rest)))
      (.call name (Field.ofAttributes? as) ((child :: rest).map Node.outline)) := by
  intro s _
  have hend : (closingMark depth ++ s).dropPrefix? ",\n".toList = none := by
    simp [closingMark, List.dropPrefix?]
  have hread := readSeparated_joinWith (by decide) (fun _ => trivial) trivial hend
    (List.cons_ne_nil child rest) hchildren
  rw [node_tag_cons]
  simp only [List.append_assoc]
  -- the text of the children counts only by how it is read
  generalize (Text.joinWith ",\n" ((child :: rest).map (node (depth + 1)))).toList = joined
    at hread ⊢
  rcases childrenMark_eq_cons (Field.ofAttributes? as) with ⟨c, t, hmark, hbrace, hclose⟩
  have hhead := readHead_attributes hname hentries hbrace
    (t ++ (joined ++ (closingMark depth ++ s)))
  have hne := head?_call_ne_mark hname as (c :: t ++ (joined ++ (closingMark depth ++ s)))
  rw [← List.cons_append, ← hmark] at hhead
  rw [← hmark] at hne
  have hfirst : (childrenMark (Field.ofAttributes? as) ++
      (joined ++ (closingMark depth ++ s))).head? ≠ some ')' := by
    rw [hmark]
    simpa using hclose
  rw [readNode, dropPrefix?_append]
  simp only [beq_iff_eq, if_neg hne, hhead, if_neg hfirst, dropPrefix?_append, hread,
    Option.map_some]

theorem length_node_pos {n : Node} (h : hasPlainNames n) (depth : Nat) :
    0 < (node depth n).toList.length := by
  have hindent : 0 < (indent depth).toList.length := by
    rw [indent, String.toList_ofList, List.length_replicate, baseIndent]
    omega
  match n, h with
  | .text value, _ =>
    rw [node, String.toList_append, List.length_append]
    omega
  | .tag name as [], _ =>
    simp only [node, String.toList_append, List.length_append]
    omega
  | .tag name as (child :: rest), _ =>
    rw [node_tag_cons, List.length_append]
    omega

/-- A node at any depth is read back, given as many levels as it has characters. -/
theorem reads_node (n : Node) (hplain : ∀ m ∈ n.preorder, hasPlainNames m) {levels depth : Nat}
    (hlevels : (node depth n).toList.length ≤ levels) :
    Reads (fun _ => True) (readNode levels depth) (node depth n) n.outline := by
  induction n using Node.induction generalizing levels depth with
  | root children =>
    exact absurd (hplain _ (Node.mem_preorder_self _)) (by simp [hasPlainNames])
  | text value =>
    have hpos := length_node_pos (hplain _ (Node.mem_preorder_self _)) depth
    cases levels with
    | zero => omega
    | succ levels => exact readNode_text levels depth value
  | tag name as children ih =>
    have hself := hplain _ (Node.mem_preorder_self _)
    have hpos := length_node_pos hself depth
    rcases plain_of_hasPlainNames hself with ⟨hname, hentries⟩
    cases levels with
    | zero => omega
    | succ levels =>
      cases children with
      | nil => exact readNode_leaf levels depth hname hentries
      | cons child rest =>
        rw [node_tag_cons] at hlevels
        simp only [List.length_append, closingMark, List.length_cons] at hlevels
        rw [Node.outline, Node.outlines_eq_map]
        apply readNode_parent levels depth hname hentries
        intro m hm
        apply ih m hm
        · intro k hk
          exact hplain k (Node.mem_preorder_of_child hm hk)
        · -- a child is shorter than its parent, so one level less is enough for it
          have hle := length_mem_le_length_joinWith ",\n"
            (List.mem_map_of_mem (f := node (depth + 1)) hm)
          omega

/-! ## Whole bodies -/

theorem read_ofRoot {children : List Node}
    (h : ∀ n ∈ (Node.root children).descendants, hasPlainNames n) :
    read (ofRoot (.root children)) = some (Node.root children).outline := by
  have hbody : ofRoot (.root children) = Text.joinWith ",\n" (children.map (node 0)) := by
    rw [ofRoot, node, nodes_eq_map]
  rw [hbody, Node.outline, Node.outlines_eq_map]
  cases children with
  | nil => rfl
  | cons child rest =>
    have hitem : ∀ n ∈ child :: rest, Reads (fun _ => True)
        (readNode (Text.joinWith ",\n" ((child :: rest).map (node 0))).toList.length 0) (node 0 n)
        n.outline := by
      intro n hn
      apply reads_node n
      · intro m hm
        exact h m (Node.mem_descendants.mpr ⟨n, hn, hm⟩)
      · exact length_mem_le_length_joinWith ",\n" (List.mem_map_of_mem hn)
    have hread := readSeparated_joinWith (show ",\n".toList ≠ [] by decide) (fun _ => trivial)
      trivial (show [].dropPrefix? ",\n".toList = none from rfl) (List.cons_ne_nil child rest) hitem
    rw [List.append_nil] at hread
    -- from an empty body no node could have been read
    have hne : (Text.joinWith ",\n" ((child :: rest).map (node 0))).toList ≠ [] := by
      intro hnil
      rw [hnil] at hread
      exact absurd hread (by simp [readSeparated, readItems, readNode])
    simp only [read, List.isEmpty_eq_false_iff.mpr hne, hread]
    rfl

/-- A body tells the outline of its tree: a reader recovers it, and so trees with one body have one
outline. -/
theorem outline_eq_of_ofRoot_eq {cs ds : List Node}
    (hc : ∀ n ∈ (Node.root cs).descendants, hasPlainNames n)
    (hd : ∀ n ∈ (Node.root ds).descendants, hasPlainNames n) :
    read (ofRoot (.root cs)) = some (Node.root cs).outline ∧
      (ofRoot (.root cs) = ofRoot (.root ds) →
        (Node.root cs).outline = (Node.root ds).outline) := by
  have hcs := read_ofRoot hc
  have hds := read_ofRoot hd
  refine ⟨hcs, fun heq => ?_⟩
  rw [heq, hds, Option.some.injEq] at hcs
  exact hcs.symm

/-- A tree with every kind of node, name and field. -/
def sampleTree (handler classes : String) : List Node :=
  [.tag "x-a:b.c_1"
    (.ofPairs [("onclick", handler), ("class", classes), ("c", "\x60$\x7bx\x7d\\\"\n"),
      ("data-k", "\u0001"), ("k::", "")])
    [.text "\\\x60,\n)", .tag "br" .empty [], .tag "i" (.ofPairs [("on", handler)]) [.text ""]],
   .text "()"]

/-- Two trees that differ in a handler and in the blanks of a class have one body and so one
outline. -/
theorem sampleTree_outline_eq :
    (∀ n ∈ (Node.root (sampleTree "f()" "a b-c")).descendants, hasPlainNames n) ∧
    (∀ n ∈ (Node.root (sampleTree "" "\ta  b-c ")).descendants, hasPlainNames n) ∧
    ofRoot (.root (sampleTree "f()" "a b-c")) = ofRoot (.root (sampleTree "" "\ta  b-c ")) ∧
    (Node.root (sampleTree "f()" "a b-c")).outline =
      (Node.root (sampleTree "" "\ta  b-c ")).outline := by
  have hc : ∀ n ∈ (Node.root (sampleTree "f()" "a b-c")).descendants, hasPlainNames n := by
    decide +kernel
  have hd : ∀ n ∈ (Node.root (sampleTree "" "\ta  b-c ")).descendants, hasPlainNames n := by
    decide +kernel
  have heq : ofRoot (.root (sampleTree "f()" "a b-c")) =
      ofRoot (.root (sampleTree "" "\ta  b-c ")) := by
    decide +kernel
  exact ⟨hc, hd, heq, (outline_eq_of_ofRoot_eq hc hd).2 heq⟩

end HtmlComponent.Component.Body
