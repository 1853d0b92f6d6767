import HtmlComponent.Proofs.Document.Stack

/-!
# A builder never falls back

A builder is defined on every stack: without an open node a text is dropped, a text on the stack takes
no children and loses them, and an empty stack is finished to an empty root. None of this ever comes to
pass. The strict builder below stops at each of these points instead, and along every run, refused
closes included, it does what the builder does.
-/

namespace HtmlComponent.Document.Builder

/-! ## The strict builder -/

/-- Where a strict builder stops. -/
inductive Fallback where
  /-- A node is to be added, and no node is open. -/
  | noCurrent
  /-- The innermost open node is a text and would lose the node that is to be added. -/
  | lostChild
  /-- There is nothing to finish. -/
  | noRoot

/-- Adds a child to the innermost open node. -/
def strictAdd (child : Node) : List Node → Except Fallback (List Node)
  | [] => .error .noCurrent
  | .text _ :: _ => .error .lostChild
  | current :: rest => .ok (current.addChild child :: rest)

def strictText (b : Builder) (value : String) : Except Fallback Builder :=
  if Text.blank value then .ok b
  else (strictAdd (.text value) b.stack).map fun stack => { b with stack }

def strictClose (b : Builder) : Except Fallback (Except Error Builder) :=
  if b.stack.length ≤ 1 then .ok (.error .unbalancedClose)
  else
    match b.stack with
    | [] => .ok (.ok b)
    | closed :: rest => (strictAdd closed rest).map fun stack => .ok { b with stack }

def strictPush (b : Builder) : Event → Except Fallback (Except Error Builder)
  | .openTag name attributes => .ok (.ok (b.openTag name attributes))
  | .text value => (b.strictText value).map .ok
  | .closeTag => b.strictClose

theorem length_strictAdd {child : Node} {stack stack' : List Node}
    (h : strictAdd child stack = .ok stack') : stack'.length = stack.length := by
  unfold strictAdd at h
  split at h
  · cases h
  · cases h
  · cases h
    rfl

/-- Closes the innermost node as long as there are others, and gives the last one. -/
def strictCloseAll : List Node → Except Fallback Node
  | [] => .error .noRoot
  | [root] => .ok root
  | closed :: parent :: rest =>
    match _hadd : strictAdd closed (parent :: rest) with
    | .error fallback => .error fallback
    | .ok stack => strictCloseAll stack
termination_by stack => stack.length
decreasing_by
  rw [length_strictAdd _hadd]
  exact Nat.lt_succ_self _

def strictFinish (b : Builder) : Except Fallback Document :=
  (strictCloseAll b.stack).map fun root => ⟨root, b.styles, b.elements⟩

/-! ## Well-formed stacks -/

theorem WellFormed.exists_eq_concat {stack : List Node} (h : WellFormed stack) :
    ∃ tags children, stack = tags ++ [.root children] ∧
      ∀ node ∈ tags, ∃ name attributes children, node = .tag name attributes children := by
  induction h with
  | @root children _ => exact ⟨[], children, rfl, fun _ hnode => absurd hnode List.not_mem_nil⟩
  | @tag name attributes children rest _ _ ih =>
    rcases ih with ⟨tags, bottom, hrest, htags⟩
    refine ⟨.tag name attributes children :: tags, bottom, by rw [hrest, List.cons_append], ?_⟩
    exact List.forall_mem_cons.mpr ⟨⟨name, attributes, children, rfl⟩, htags⟩

theorem WellFormed.settledBelow {stack : List Node} (h : WellFormed stack) :
    ∀ entry ∈ stack, SettledBelow entry := by
  induction h with
  | root h => exact List.forall_mem_singleton.mpr h
  | tag h _ ih => exact List.forall_mem_cons.mpr ⟨h, ih⟩

theorem WellFormed.tail {top parent : Node} {rest : List Node}
    (h : WellFormed (top :: parent :: rest)) : WellFormed (parent :: rest) := by
  cases h with
  | tag _ hrest => exact hrest

theorem WellFormed.strictAdd_eq {top : Node} {rest : List Node} (h : WellFormed (top :: rest))
    (child : Node) : strictAdd child (top :: rest) = .ok (top.addChild child :: rest) := by
  cases h <;> rfl

/-! ## One event -/

theorem WellFormed.pushOrKeep {b : Builder} (h : WellFormed b.stack) (event : Event) :
    WellFormed (b.pushOrKeep event).stack := by
  unfold Builder.pushOrKeep
  rcases push_cases h event with ⟨b', hpush, htook⟩ | ⟨-, -, hpush⟩
  · rw [hpush]
    exact htook.wellFormed
  · -- the close is refused before anything is taken off the stack
    rw [hpush]
    exact h

theorem strictText_eq {b : Builder} (h : WellFormed b.stack) (value : String) :
    b.strictText value = .ok (b.text value) := by
  unfold strictText
  rcases text_cases h value with ⟨hblank, heq⟩ | ⟨hblank, top, rest, hstack, heq⟩
  · rw [if_pos hblank, heq]
  · rw [hstack] at h
    rw [heq, hblank, if_neg Bool.false_ne_true, hstack, h.strictAdd_eq]
    rfl

theorem strictClose_eq {b : Builder} (h : WellFormed b.stack) :
    b.strictClose = .ok b.closeTag := by
  unfold strictClose
  rcases closeTag_cases h with ⟨hlength, heq⟩ | ⟨top, parent, rest, hstack, heq⟩
  · rw [heq, if_pos (Nat.le_of_eq hlength)]
  · have hlength : ¬ b.stack.length ≤ 1 := by
      rw [hstack, List.length_cons, List.length_cons]
      omega
    rw [hstack] at h
    rw [heq, if_neg hlength, hstack]
    show (strictAdd top (parent :: rest)).map _ = _
    rw [h.tail.strictAdd_eq]
    rfl

theorem strictPush_eq {b : Builder} (h : WellFormed b.stack) (event : Event) :
    b.strictPush event = .ok (b.push event) := by
  cases event with
  | openTag name attributes => rfl
  | text value =>
    rw [strictPush, strictText_eq h]
    rfl
  | closeTag => exact strictClose_eq h

/-! ## Closing what is open -/

theorem strictCloseAll_eq {stack : List Node} (h : WellFormed stack) :
    strictCloseAll stack = .ok (closeAll stack) := by
  fun_induction strictCloseAll stack with
  | case1 => exact absurd rfl h.ne_nil
  | case2 root => rfl
  | case3 closed parent rest fallback hadd =>
    rw [h.tail.strictAdd_eq] at hadd
    cases hadd
  | case4 closed parent rest stack hadd ih =>
    rw [h.tail.strictAdd_eq] at hadd
    cases hadd
    -- what is left is a stack again, as after a close
    rw [ih h.close.1, closeAll_cons_cons]

/-! ## Runs -/

theorem wellFormed_foldl_pushOrKeep {b : Builder} (h : WellFormed b.stack) (events : List Event) :
    WellFormed (events.foldl Builder.pushOrKeep b).stack := by
  induction events generalizing b with
  | nil => exact h
  | cons event rest ih => exact ih (h.pushOrKeep event)

/-- In every state of a builder the root is at the bottom of the stack, above it are tags, and below
them, at any depth, only tags and texts that are not blank. So no event and no end of a run meets a
fallback. -/
theorem no_fallback_along_runs (events : List Event) :
    let b := events.foldl Builder.pushOrKeep new
    (∃ tags children, b.stack = tags ++ [.root children] ∧
      ∀ node ∈ tags, ∃ name attributes children, node = .tag name attributes children) ∧
    (∀ entry ∈ b.stack, ∀ node ∈ entry.descendants, Settled node) ∧
    (∀ event, b.strictPush event = .ok (b.push event)) ∧
    b.strictFinish = .ok b.finish := by
  have hwell := wellFormed_foldl_pushOrKeep wellFormed_new events
  refine ⟨hwell.exists_eq_concat, hwell.settledBelow, strictPush_eq hwell, ?_⟩
  rw [strictFinish, strictCloseAll_eq hwell]
  rfl

-- a stack that no run leads to does meet one
example : strictAdd (.text "b") [.text "a", .root []] = .error .lostChild := rfl

end HtmlComponent.Document.Builder
