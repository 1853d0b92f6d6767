import HtmlComponent.Proofs.Document.Stack

/-!
# Documents and their events

Building a document loses no event and invents none. The tree has the events it was built from, less
the blank texts, with tag names in lower case and a close for every tag that was left open. Only a
close without an open tag stops it.
-/

namespace HtmlComponent.Document

open Builder

theorem covers_new {events : List Event} :
    Covers new events ↔ ∀ p, p <+: events → Event.closes p ≤ Event.opens p := by
  have hlength : new.stack.length = 1 := rfl
  unfold Covers
  rw [hlength]
  constructor
  · intro h p hp
    have := h p hp
    omega
  · intro h p hp
    have := h p hp
    omega

theorem not_covers_new {events : List Event} :
    ¬ Covers new events ↔ ∃ p, p <+: events ∧ Event.opens p < Event.closes p := by
  rw [covers_new]
  simp only [Classical.not_forall, Nat.not_le, exists_prop]

/-- Building succeeds on covered events and fails with the one error on all others. -/
theorem ofEvents_cases (events : List Event) :
    (Covers new events ∧ ∃ b, new.pushAll events = .ok b ∧ Took new events b ∧
      ofEvents events = .ok b.finish) ∨
    (¬ Covers new events ∧ ofEvents events = .error .unbalancedClose) := by
  unfold ofEvents
  rcases pushAll_cases wellFormed_new events with ⟨hcovers, b, hrun, htook⟩ | ⟨hnot, hrun⟩
  · exact .inl ⟨hcovers, b, hrun, htook, by rw [hrun]⟩
  · exact .inr ⟨hnot, by rw [hrun]⟩

/-- The tree of a finished builder, in terms of the events that it has taken. -/
theorem finish_of_took {events : List Event} {b : Builder} (h : Took new events b) :
    ∃ children, b.finish.root = .root children ∧ SettledBelow (.root children) ∧
      Node.listEvents children = Event.settle events ++
        List.replicate (Event.opens events - Event.closes events) .closeTag := by
  rcases List.exists_cons_of_ne_nil h.wellFormed.ne_nil with ⟨top, rest, hstack⟩
  have hwell := h.wellFormed
  have hevents := h.events_eq
  have hlength := h.length_eq
  rw [hstack] at hwell hevents hlength
  rcases closeAll_spec hwell with ⟨children, hroot, hsettled, heq⟩
  have hopen : rest.length = Event.opens events - Event.closes events := by
    have hone : new.stack.length = 1 := rfl
    rw [List.length_cons, hone] at hlength
    omega
  refine ⟨children, ?_, hsettled, ?_⟩
  · rw [finish, hstack]
    exact hroot
  · rw [heq, hevents, hopen]
    rfl

/-- Building fails exactly if some first part of the events closes more tags than it opens, and then
in one way only. Otherwise the events of the tree are the given ones, settled and closed. -/
theorem ofEvents_events (events : List Event) :
    (ofEvents events = .error .unbalancedClose ↔
      ∃ p, p <+: events ∧ Event.opens p < Event.closes p) ∧
    (∀ e, ofEvents events = .error e → e = .unbalancedClose) ∧
    ((∃ p, p <+: events ∧ Event.opens p < Event.closes p) ∨
      ∃ d children, ofEvents events = .ok d ∧ d.root = .root children ∧
        (∀ n ∈ d.root.descendants, ∀ inner, n ≠ .root inner) ∧
        Node.listEvents children = Event.settle events ++
          List.replicate (Event.opens events - Event.closes events) .closeTag) := by
  rw [← not_covers_new]
  rcases ofEvents_cases events with ⟨hcovers, b, -, htook, hok⟩ | ⟨hnot, herror⟩
  · rcases finish_of_took htook with ⟨children, hroot, hsettled, hevents⟩
    refine ⟨?_, ?_, .inr ⟨b.finish, children, hok, hroot, ?_, hevents⟩⟩
    · rw [hok]
      exact ⟨fun h => (nomatch h), fun h => absurd hcovers h⟩
    · intro e he
      rw [hok] at he
      cases he
    · rw [hroot]
      exact hsettled.no_root
  · refine ⟨⟨fun _ => hnot, fun _ => herror⟩, ?_, .inl hnot⟩
    intro e he
    rw [herror] at he
    cases he
    rfl

end HtmlComponent.Document
