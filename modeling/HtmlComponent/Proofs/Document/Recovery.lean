import HtmlComponent.Proofs.Document.Stack

/-!
# Going on after a refused event

A builder may be pushed on after it has refused an event. It then behaves as if the refused events
had never come: they are exactly the closes that find no open tag among the events kept before them,
and the builder is where a run over the kept events alone ends.
-/

namespace HtmlComponent

namespace Event

/-- A close that comes when all tags among the kept events are closed. -/
def isStray (kept : List Event) (event : Event) : Bool :=
  event.isClose && closes kept == opens kept

def keepNext (kept : List Event) (event : Event) : List Event :=
  if isStray kept event then kept else kept ++ [event]

/-- The events that are left when the stray closes are deleted from left to right. -/
def keep (events : List Event) : List Event :=
  events.foldl keepNext []

theorem isStray_eq_true_iff {kept : List Event} {event : Event} :
    isStray kept event = true ↔ event = .closeTag ∧ closes kept = opens kept := by
  unfold isStray
  rw [Bool.and_eq_true, beq_iff_eq]
  cases event with
  | openTag name attributes => simp [isClose]
  | text value => simp [isClose]
  | closeTag => simp [isClose]

end Event

namespace Document.Builder

open Event (isStray keepNext keep)

/-! ## One event -/

/-- The builder is the end of a run over the kept events. -/
structure Rebuilt (kept : List Event) (b : Builder) : Prop where
  run : new.pushAll kept = .ok b
  took : Took new kept b

theorem rebuilt_nil : Rebuilt [] new :=
  ⟨rfl, .nil wellFormed_new⟩

/-- The height of the stack counts the tags that the kept events leave open. -/
theorem Rebuilt.length_eq_one_iff {kept : List Event} {b : Builder} (h : Rebuilt kept b) :
    b.stack.length = 1 ↔ Event.closes kept = Event.opens kept := by
  have hlength := h.took.length_eq
  have hone : new.stack.length = 1 := rfl
  omega

/-- An event is refused if it is stray, and otherwise joins the kept ones. -/
theorem Rebuilt.push_cases {kept : List Event} {b : Builder} (h : Rebuilt kept b) (event : Event) :
    (isStray kept event = true ∧ b.push event = .error .unbalancedClose) ∨
    (isStray kept event = false ∧
      ∃ b', b.push event = .ok b' ∧ Rebuilt (kept ++ [event]) b') := by
  rcases Builder.push_cases h.took.wellFormed event with
    ⟨b', hpush, htook⟩ | ⟨hclose, hlength, hpush⟩
  · have hrun : new.pushAll (kept ++ [event]) = .ok b' := by
      rw [pushAll_append, h.run]
      show b.pushAll [event] = .ok b'
      rw [pushAll, hpush]
      rfl
    have hnot : isStray kept event = false := by
      rw [← Bool.not_eq_true, Event.isStray_eq_true_iff]
      rintro ⟨rfl, hcount⟩
      -- a close takes a tag off the stack, and the root stays
      have hlength := htook.length_eq
      have hpos : 0 < b'.stack.length := List.length_pos_iff.mpr htook.wellFormed.ne_nil
      have hone := h.length_eq_one_iff.mpr hcount
      have hcloses : Event.closes [.closeTag] = 1 := rfl
      have hopens : Event.opens [.closeTag] = 0 := rfl
      omega
    exact .inr ⟨hnot, b', hpush, hrun, h.took.trans htook⟩
  · have hcount := h.length_eq_one_iff.mp hlength
    exact .inl ⟨Event.isStray_eq_true_iff.mpr ⟨hclose, hcount⟩, hpush⟩

theorem Rebuilt.pushOrKeep {kept : List Event} {b : Builder} (h : Rebuilt kept b) (event : Event) :
    Rebuilt (keepNext kept event) (b.pushOrKeep event) := by
  unfold keepNext Builder.pushOrKeep
  rcases h.push_cases event with ⟨hstray, hpush⟩ | ⟨hstray, b', hpush, hnext⟩
  · rw [hpush, if_pos hstray]
    exact h
  · rw [hpush, hstray, if_neg Bool.false_ne_true]
    exact hnext

/-! ## Runs -/

theorem Rebuilt.foldl_pushOrKeep {kept : List Event} {b : Builder} (h : Rebuilt kept b)
    (events : List Event) :
    Rebuilt (events.foldl keepNext kept) (events.foldl Builder.pushOrKeep b) := by
  induction events generalizing kept b with
  | nil => exact h
  | cons event rest ih => exact ih (h.pushOrKeep event)

theorem rebuilt_keep (events : List Event) :
    Rebuilt (keep events) (events.foldl Builder.pushOrKeep new) :=
  rebuilt_nil.foldl_pushOrKeep events

/-- Along every run exactly the stray closes are refused, and at any time the document is the one
that the kept events describe. -/
theorem ofEvents_keep (events : List Event) :
    (∀ p event, p ++ [event] <+: events →
      ((p.foldl Builder.pushOrKeep new).push event = .error .unbalancedClose ↔
        isStray (keep p) event = true) ∧
      ((∃ b, (p.foldl Builder.pushOrKeep new).push event = .ok b) ↔
        isStray (keep p) event = false)) ∧
    ∀ p, p <+: events → ofEvents (keep p) = .ok (p.foldl Builder.pushOrKeep new).finish := by
  constructor
  · intro p event _
    rcases (rebuilt_keep p).push_cases event with ⟨hstray, hpush⟩ | ⟨hstray, b, hpush, -⟩
    · simp [hstray, hpush]
    · simp [hstray, hpush]
  · intro p _
    unfold ofEvents
    rw [(rebuilt_keep p).run]

end Document.Builder

end HtmlComponent
