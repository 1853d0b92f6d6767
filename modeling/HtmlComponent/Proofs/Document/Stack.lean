import HtmlComponent.Document.Builder
import HtmlComponent.Proofs.Node.Traversal

/-!
# The stack of a builder

A builder holds the open nodes only, the innermost first. Read from the root upwards they give back
the events that the builder has taken in, so nothing of them is lost and nothing is added. This is
shown for one event, then for a run, then for the closing of what is still open. Events that open
and close tags in turn add nodes to whatever is open and leave the rest of the stack alone.
-/

namespace HtmlComponent

/-! ## Lists of events -/

namespace Event

def isOpen : Event → Bool
  | .openTag _ _ => true
  | _ => false

def isClose : Event → Bool
  | .closeTag => true
  | _ => false

def opens (events : List Event) : Nat :=
  events.countP isOpen

def closes (events : List Event) : Nat :=
  events.countP isClose

/-- What a builder makes of an event: a blank text is dropped, the name of a tag goes to lower
case. -/
def settled? : Event → Option Event
  | .openTag name attributes => some (.openTag (Text.lower name) attributes)
  | .text value => if Text.blank value then none else some (.text value)
  | .closeTag => some .closeTag

def settle (events : List Event) : List Event :=
  events.filterMap settled?

end Event

namespace Document.Builder

/-! ## Stacks -/

/-- The events of a node that is still open: it has started, and so far its children are in it. -/
def openEvents : Node → List Event
  | .root children => Node.listEvents children
  | .tag name attributes children => .openTag name attributes :: Node.listEvents children
  | .text value => [.text value]

/-- The events of a stack, from the root upwards. -/
def stackEvents : List Node → List Event
  | [] => []
  | top :: rest => stackEvents rest ++ openEvents top

/-- What may stand below an open node: tags, and texts that are not blank. -/
def Settled : Node → Prop
  | .root _ => False
  | .tag _ _ _ => True
  | .text value => Text.blank value = false

def SettledBelow (node : Node) : Prop :=
  ∀ m ∈ node.descendants, Settled m

/-- A stack has the root at its bottom and only tags above it. -/
inductive WellFormed : List Node → Prop
  | root {children : List Node} (h : SettledBelow (.root children)) : WellFormed [.root children]
  | tag {name : String} {attributes : Attributes} {children rest : List Node}
      (h : SettledBelow (.tag name attributes children)) (hrest : WellFormed rest) :
      WellFormed (.tag name attributes children :: rest)

theorem WellFormed.ne_nil {stack : List Node} (h : WellFormed stack) : stack ≠ [] := by
  cases h <;> exact List.cons_ne_nil _ _

theorem WellFormed.top_ne_text {top : Node} {rest : List Node} (h : WellFormed (top :: rest))
    (value : String) : top ≠ .text value := by
  cases h <;> simp

theorem SettledBelow.no_root {node : Node} (h : SettledBelow node) :
    ∀ n ∈ node.descendants, ∀ children, n ≠ .root children := by
  rintro n hn children rfl
  exact h _ hn

theorem SettledBelow.addChild {node child : Node} (hnode : ∀ value, node ≠ .text value)
    (h : SettledBelow node) (hchild : ∀ m ∈ child.preorder, Settled m) :
    SettledBelow (node.addChild child) := by
  intro m hm
  rw [Node.descendants_addChild hnode] at hm
  rcases List.mem_append.mp hm with hm | hm
  · exact h m hm
  · exact hchild m hm

theorem WellFormed.addChild {top child : Node} {rest : List Node} (h : WellFormed (top :: rest))
    (hchild : ∀ m ∈ child.preorder, Settled m) : WellFormed (top.addChild child :: rest) := by
  have htop := h.top_ne_text
  cases h with
  | root h => exact .root (h.addChild htop hchild)
  | tag h hrest => exact .tag (h.addChild htop hchild) hrest

theorem stackEvents_addChild {top : Node} (h : ∀ value, top ≠ .text value) (child : Node)
    (rest : List Node) :
    stackEvents (top.addChild child :: rest) = stackEvents (top :: rest) ++ child.events := by
  cases top with
  | text value => exact absurd rfl (h value)
  | root children | tag name attributes children =>
    simp only [stackEvents, Node.addChild, openEvents, Node.listEvents_concat, List.append_assoc,
      List.cons_append]

/-- Closing the innermost tag leaves a stack, whose events end with the close. -/
theorem WellFormed.close {top parent : Node} {rest : List Node}
    (h : WellFormed (top :: parent :: rest)) :
    WellFormed (parent.addChild top :: rest) ∧
      stackEvents (parent.addChild top :: rest) =
        stackEvents (top :: parent :: rest) ++ [.closeTag] := by
  cases h with
  | @tag name attributes children _ h hrest =>
    refine ⟨hrest.addChild ?_, ?_⟩
    · rw [Node.preorder_eq_cons]
      exact List.forall_mem_cons.mpr ⟨trivial, h⟩
    · rw [stackEvents_addChild hrest.top_ne_text]
      simp only [Node.events, stackEvents, openEvents, List.append_assoc, List.cons_append]

/-! ## One event -/

theorem wellFormed_new : WellFormed new.stack :=
  .root fun _ hm => absurd hm List.not_mem_nil

theorem wellFormed_openTag {b : Builder} (h : WellFormed b.stack) (name : String)
    (attributes : Attributes) : WellFormed (b.openTag name attributes).stack :=
  .tag (fun _ hm => absurd hm List.not_mem_nil) h

theorem stackEvents_openTag (b : Builder) (name : String) (attributes : Attributes) :
    stackEvents (b.openTag name attributes).stack =
      stackEvents b.stack ++ [.openTag (Text.lower name) attributes] :=
  rfl

/-- A text leaves the stack alone, or is added to its top. -/
theorem text_cases {b : Builder} (h : WellFormed b.stack) (value : String) :
    (Text.blank value = true ∧ b.text value = b) ∨
    (Text.blank value = false ∧ ∃ top rest, b.stack = top :: rest ∧
      b.text value = { b with stack := top.addChild (.text value) :: rest }) := by
  unfold text
  by_cases hblank : Text.blank value = true
  · exact .inl ⟨hblank, if_pos hblank⟩
  · rcases List.exists_cons_of_ne_nil h.ne_nil with ⟨top, rest, hstack⟩
    refine .inr ⟨Bool.not_eq_true _ ▸ hblank, top, rest, hstack, ?_⟩
    rw [if_neg hblank, hstack]

/-- A close is refused by a builder that has only its root open, and by no other. -/
theorem closeTag_cases {b : Builder} (h : WellFormed b.stack) :
    (b.stack.length = 1 ∧ b.closeTag = .error .unbalancedClose) ∨
    (∃ top parent rest, b.stack = top :: parent :: rest ∧
      b.closeTag = .ok { b with stack := parent.addChild top :: rest }) := by
  unfold closeTag
  match hstack : b.stack with
  | [] => exact absurd hstack h.ne_nil
  | [_] => exact .inl ⟨rfl, rfl⟩
  | top :: parent :: rest => exact .inr ⟨top, parent, rest, rfl, rfl⟩

/-- What a builder is like after an event that it takes. -/
structure Took (b : Builder) (events : List Event) (b' : Builder) : Prop where
  wellFormed : WellFormed b'.stack
  events_eq : stackEvents b'.stack = stackEvents b.stack ++ Event.settle events
  length_eq : b'.stack.length + Event.closes events = b.stack.length + Event.opens events

theorem took_openTag {b : Builder} (h : WellFormed b.stack) (name : String)
    (attributes : Attributes) :
    Took b [.openTag name attributes] (b.openTag name attributes) where
  wellFormed := wellFormed_openTag h name attributes
  events_eq := stackEvents_openTag b name attributes
  length_eq := rfl

theorem took_text {b : Builder} (h : WellFormed b.stack) (value : String) :
    Took b [.text value] (b.text value) := by
  rcases text_cases h value with ⟨hblank, heq⟩ | ⟨hblank, top, rest, hstack, heq⟩
  · rw [heq]
    exact ⟨h, by simp [Event.settle, Event.settled?, hblank], rfl⟩
  · rw [hstack] at h
    rw [heq]
    refine ⟨h.addChild ?_, ?_, ?_⟩
    · rw [Node.preorder]
      exact List.forall_mem_singleton.mpr hblank
    · rw [hstack, stackEvents_addChild h.top_ne_text]
      simp [Event.settle, Event.settled?, hblank, Node.events]
    · rw [hstack]
      rfl

theorem took_closeTag {b : Builder} (h : WellFormed b.stack) {top parent : Node}
    {rest : List Node} (hstack : b.stack = top :: parent :: rest) :
    Took b [.closeTag] { b with stack := parent.addChild top :: rest } := by
  rw [hstack] at h
  rcases h.close with ⟨hwell, hevents⟩
  refine ⟨hwell, ?_, ?_⟩
  · rw [hstack]
    exact hevents
  · rw [hstack]
    rfl

/-- An event is taken, or it is a close without an open tag. -/
theorem push_cases {b : Builder} (h : WellFormed b.stack) (event : Event) :
    (∃ b', b.push event = .ok b' ∧ Took b [event] b') ∨
    (event = .closeTag ∧ b.stack.length = 1 ∧ b.push event = .error .unbalancedClose) := by
  cases event with
  | openTag name attributes => exact .inl ⟨_, rfl, took_openTag h name attributes⟩
  | text value => exact .inl ⟨_, rfl, took_text h value⟩
  | closeTag =>
    rcases closeTag_cases h with ⟨hlength, herror⟩ | ⟨top, parent, rest, hstack, hok⟩
    · exact .inr ⟨rfl, hlength, herror⟩
    · exact .inl ⟨_, hok, took_closeTag h hstack⟩

/-! ## Runs -/

theorem Took.nil {b : Builder} (h : WellFormed b.stack) : Took b [] b :=
  ⟨h, (List.append_nil _).symm, rfl⟩

theorem Took.trans {b₁ b₂ b₃ : Builder} {events events' : List Event} (h : Took b₁ events b₂)
    (h' : Took b₂ events' b₃) : Took b₁ (events ++ events') b₃ where
  wellFormed := h'.wellFormed
  events_eq := by
    rw [h'.events_eq, h.events_eq, Event.settle, Event.settle, Event.settle, List.filterMap_append,
      List.append_assoc]
  length_eq := by
    have h₁ := h.length_eq
    have h₂ := h'.length_eq
    simp only [Event.opens, Event.closes, List.countP_append] at h₁ h₂ ⊢
    omega

/-- The run never has to close more tags than are open, counting those of the start. -/
def Covers (b : Builder) (events : List Event) : Prop :=
  ∀ p, p <+: events → Event.closes p < b.stack.length + Event.opens p

theorem covers_cons {b b' : Builder} {event : Event} {rest : List Event} (hb : b.stack ≠ [])
    (h : Took b [event] b') : Covers b (event :: rest) ↔ Covers b' rest := by
  have hlength := h.length_eq
  have hcons : ∀ p : List Event,
      Event.closes (event :: p) < b.stack.length + Event.opens (event :: p) ↔
        Event.closes p < b'.stack.length + Event.opens p := by
    intro p
    simp only [Event.opens, Event.closes, List.countP_cons, List.countP_nil] at hlength ⊢
    omega
  constructor
  · intro hc p hp
    exact (hcons p).mp (hc _ ((List.prefix_cons_inj event).mpr hp))
  · intro hc p hp
    rcases List.prefix_cons_iff.mp hp with rfl | ⟨q, rfl, hq⟩
    · -- the empty prefix is covered by the root alone
      exact Nat.lt_of_lt_of_le (List.length_pos_iff.mpr hb) (Nat.le_add_right _ _)
    · exact (hcons q).mpr (hc q hq)

/-- A run goes through to its end exactly if it is covered; otherwise it stops at a close. -/
theorem pushAll_cases {b : Builder} (h : WellFormed b.stack) (events : List Event) :
    (Covers b events ∧ ∃ b', b.pushAll events = .ok b' ∧ Took b events b') ∨
    (¬ Covers b events ∧ b.pushAll events = .error .unbalancedClose) := by
  induction events generalizing b with
  | nil =>
    refine .inl ⟨fun p hp => ?_, b, rfl, .nil h⟩
    rw [List.prefix_nil.mp hp]
    exact Nat.lt_of_lt_of_le (List.length_pos_iff.mpr h.ne_nil) (Nat.le_add_right _ _)
  | cons event rest ih =>
    rcases push_cases h event with ⟨b', hpush, htook⟩ | ⟨rfl, hlength, hpush⟩
    · rw [covers_cons h.ne_nil htook, pushAll, hpush]
      -- one event on, the rest is covered exactly if the whole was
      rcases ih htook.wellFormed with ⟨hcovers, b'', hrun, hrest⟩ | hstop
      · exact .inl ⟨hcovers, b'', hrun, htook.trans hrest⟩
      · exact .inr hstop
    · refine .inr ⟨fun hcovers => ?_, by rw [pushAll, hpush]⟩
      -- the close itself is a prefix that is not covered
      have hone := hcovers [.closeTag] ((List.prefix_cons_inj _).mpr (List.nil_prefix))
      rw [hlength] at hone
      exact absurd hone (by decide)

theorem pushAll_append (b : Builder) (events events' : List Event) :
    b.pushAll (events ++ events') =
      match b.pushAll events with
      | .error e => .error e
      | .ok b' => b'.pushAll events' := by
  induction events generalizing b with
  | nil => rfl
  | cons event rest ih =>
    rw [List.cons_append, pushAll, pushAll]
    cases b.push event with
    | error e => rfl
    | ok b' => exact ih b'

/-! ## Closing what is open -/

theorem closeAll_cons_cons (top parent : Node) (rest : List Node) :
    closeAll (top :: parent :: rest) = closeAll (parent.addChild top :: rest) :=
  rfl

/-- The finished tree has the events of the stack and a close for every tag on it. -/
theorem closeAll_spec {top : Node} {rest : List Node} (h : WellFormed (top :: rest)) :
    ∃ children, closeAll (top :: rest) = .root children ∧ SettledBelow (.root children) ∧
      Node.listEvents children =
        stackEvents (top :: rest) ++ List.replicate rest.length .closeTag := by
  induction rest generalizing top with
  | nil =>
    cases h with
    | @root children h =>
      refine ⟨children, rfl, h, ?_⟩
      simp [stackEvents, openEvents]
    | tag _ hrest => exact absurd rfl hrest.ne_nil
  | cons parent rest ih =>
    -- what is left open is closed just as by an event
    rcases h.close with ⟨hwell, hevents⟩
    rcases ih hwell with ⟨children, hroot, hsettled, heq⟩
    refine ⟨children, by rw [closeAll_cons_cons, hroot], hsettled, ?_⟩
    rw [heq, hevents, List.append_assoc, List.length_cons, List.replicate_succ]
    rfl

/-! ## Events that add nodes -/

/-- A builder takes these events, and then its innermost open node has these further children while
the rest of the stack is as before. -/
def Adds (events : List Event) (nodes : List Node) : Prop :=
  ∀ (b : Builder) (top : Node) (rest : List Node), b.stack = top :: rest →
    ∃ b', b.pushAll events = .ok b' ∧ b'.stack = nodes.foldl Node.addChild top :: rest

theorem Adds.nil : Adds [] [] :=
  fun b _ _ h => ⟨b, rfl, h⟩

theorem Adds.append {events events' : List Event} {nodes nodes' : List Node}
    (h : Adds events nodes) (h' : Adds events' nodes') :
    Adds (events ++ events') (nodes ++ nodes') := by
  intro b top rest hstack
  rcases h b top rest hstack with ⟨b₁, hrun₁, hstack₁⟩
  rcases h' b₁ _ rest hstack₁ with ⟨b₂, hrun₂, hstack₂⟩
  refine ⟨b₂, ?_, ?_⟩
  · rw [pushAll_append, hrun₁]
    exact hrun₂
  · rw [List.foldl_append]
    exact hstack₂

/-- Children are added at the end, to a root and to a tag alike. -/
theorem foldl_addChild {mk : List Node → Node}
    (hmk : ∀ children child, (mk children).addChild child = mk (children ++ [child]))
    (children nodes : List Node) :
    nodes.foldl Node.addChild (mk children) = mk (children ++ nodes) := by
  induction nodes generalizing children with
  | nil => rw [List.append_nil, List.foldl_nil]
  | cons node rest ih =>
    rw [List.foldl_cons, hmk, ih, List.append_assoc]
    rfl

theorem adds_text (value : String) :
    Adds [.text value] (if Text.blank value then [] else [.text value]) := by
  intro b top rest hstack
  refine ⟨b.text value, rfl, ?_⟩
  unfold text
  by_cases hblank : Text.blank value = true
  · rw [if_pos hblank, if_pos hblank]
    exact hstack
  · rw [if_neg hblank, if_neg hblank, hstack]
    rfl

/-- Events between the opening and the closing of a tag give the children of that tag. -/
theorem Adds.tag {events : List Event} {nodes : List Node} (h : Adds events nodes) (name : String)
    (attributes : Attributes) :
    Adds (.openTag name attributes :: (events ++ [.closeTag]))
      [.tag (Text.lower name) attributes nodes] := by
  intro b top rest hstack
  have hopen : (b.openTag name attributes).stack =
      .tag (Text.lower name) attributes [] :: top :: rest := by
    rw [openTag, hstack]
  rcases h _ _ _ hopen with ⟨b₁, hrun, hstack₁⟩
  rw [foldl_addChild (fun _ _ => rfl), List.nil_append] at hstack₁
  -- the close pops the new tag, with all that the events have put into it
  refine ⟨{ b₁ with stack := top.addChild (.tag (Text.lower name) attributes nodes) :: rest }, ?_,
    rfl⟩
  rw [pushAll]
  show (b.openTag name attributes).pushAll (events ++ [.closeTag]) = _
  rw [pushAll_append, hrun]
  simp only [pushAll, push, closeTag, hstack₁]

/-- What a new builder has taken then stands under the root, with nothing left open. -/
theorem Adds.exists_finished {events : List Event} {nodes : List Node} (h : Adds events nodes) :
    ∃ b, new.pushAll events = .ok b ∧ b.stack = [.root nodes] ∧
      Document.ofEvents events = .ok b.finish ∧ b.finish.root = .root nodes := by
  rcases h new (.root []) [] rfl with ⟨b, hrun, hstack⟩
  rw [foldl_addChild (fun _ _ => rfl), List.nil_append] at hstack
  refine ⟨b, hrun, hstack, ?_, ?_⟩
  · rw [Document.ofEvents, hrun]
  · -- a root alone is closed already
    rw [finish, hstack]
    rfl

end Document.Builder

end HtmlComponent
