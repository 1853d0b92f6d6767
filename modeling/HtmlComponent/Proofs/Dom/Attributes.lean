import HtmlComponent.Dom
import HtmlComponent.Proofs.Attributes

/-!
# The two ways of collecting attributes

Attributes of markup are collected by `collectAttributes`, where a name that comes up again is passed
over; attributes of an event by `Event.ofPairs`, where it takes the later value. So the two agree on
which names there are and on their order, and differ where a name comes up with two values.
-/

namespace HtmlComponent

open Attributes

/-! ## Names of attributes -/

/-- The name of an attribute as markup writes it: its local name, behind the qualifier and a colon if
there is a qualifier. -/
def DomAttribute.qualifiedName : DomAttribute → String
  | ⟨none, localName, _⟩ => localName
  | ⟨some qualifier, localName, _⟩ => qualifier ++ ":" ++ localName

theorem DomAttribute.name_eq_qualifiedName (a : DomAttribute) : a.name = a.qualifiedName := by
  rcases a with ⟨_ | qualifier, localName, value⟩
  · rfl
  · rfl

theorem collectAttributes_eq_ofFirstPairs (as : List DomAttribute) :
    collectAttributes as = ofFirstPairs (as.map fun a => (a.qualifiedName, a.value)) := by
  simp only [collectAttributes, DomAttribute.name_eq_qualifiedName]

/-! ## First and last values -/

variable (pairs : List (String × String))

theorem names_ofFirstPairs_eq : (ofFirstPairs pairs).names = (ofPairs pairs).names := by
  rw [names_ofFirstPairs, names_ofPairs]

theorem ofFirstPairs_same_ofPairs_iff :
    (ofFirstPairs pairs).same (ofPairs pairs) = true ↔
      ∀ name, pairs.lookup name = pairs.reverse.lookup name := by
  rw [same_iff_get?_eq (names_ofFirstPairs_eq pairs)]
  simp only [get?_ofFirstPairs, get?_ofPairs]

theorem ofFirstPairs_eq_ofPairs_iff :
    ofFirstPairs pairs = ofPairs pairs ↔
      ∀ name, pairs.lookup name = pairs.reverse.lookup name := by
  constructor
  · intro heq name
    rw [← get?_ofFirstPairs, ← get?_ofPairs, heq]
  · intro hvalues
    apply eq_of_get?_eq (names_ofFirstPairs_eq pairs)
    intro name
    rw [get?_ofFirstPairs, get?_ofPairs, hvalues]

/-- From the same pairs both ways take the same names in the same order, the one with their first
values, the other with their last. They give the same attributes exactly if for each name these two
values are one. -/
theorem collected_alike {as : List DomAttribute} {pairs : List (String × String)}
    (h : as.map (fun a => (a.qualifiedName, a.value)) = pairs) (tag : String) :
    ∃ bs, Event.ofPairs tag pairs = .openTag tag bs ∧
    (collectAttributes as).names = (pairs.map Prod.fst).eraseDups ∧
    bs.names = (pairs.map Prod.fst).eraseDups ∧
    (∀ name, (collectAttributes as).get? name = pairs.lookup name) ∧
    (∀ name, bs.get? name = pairs.reverse.lookup name) ∧
    ((collectAttributes as).same bs = true ↔
      ∀ name, pairs.lookup name = pairs.reverse.lookup name) ∧
    (collectAttributes as = bs ↔ ∀ name, pairs.lookup name = pairs.reverse.lookup name) := by
  rw [collectAttributes_eq_ofFirstPairs, h]
  exact ⟨ofPairs pairs, rfl, names_ofFirstPairs pairs, names_ofPairs pairs,
    get?_ofFirstPairs pairs, get?_ofPairs pairs, ofFirstPairs_same_ofPairs_iff pairs,
    ofFirstPairs_eq_ofPairs_iff pairs⟩

/-- One name qualified and then written out, with another value; another name twice with one value. -/
def linkAttributes : List DomAttribute :=
  [⟨some "xlink", "href", "#a"⟩, ⟨none, "id", "x"⟩, ⟨none, "xlink:href", "#b"⟩, ⟨none, "id", "x"⟩]

def linkPairs : List (String × String) :=
  [("xlink:href", "#a"), ("id", "x"), ("xlink:href", "#b"), ("id", "x")]

theorem linkAttributes_collected_alike :
    linkAttributes.map (fun a => (a.qualifiedName, a.value)) = linkPairs ∧
    (collectAttributes linkAttributes).names = ["xlink:href", "id"] ∧
    (collectAttributes linkAttributes).get? "xlink:href" = some "#a" ∧
    ∃ bs, Event.ofPairs "use" linkPairs = .openTag "use" bs ∧
      bs.names = ["xlink:href", "id"] ∧
      bs.get? "xlink:href" = some "#b" ∧
      (collectAttributes linkAttributes).same bs ≠ true ∧
      collectAttributes linkAttributes ≠ bs := by
  have hpairs : linkAttributes.map (fun a => (a.qualifiedName, a.value)) = linkPairs := by decide
  rcases collected_alike hpairs "use" with
    ⟨bs, hevent, hfirst, hlast, hfirstValue, hlastValue, hsame, heq⟩
  -- the two values of the link differ, and so do the collections
  have hdiffer : ¬ ∀ name, linkPairs.lookup name = linkPairs.reverse.lookup name :=
    fun h => absurd (h "xlink:href") (by decide)
  refine ⟨hpairs, hfirst, hfirstValue _, bs, hevent, hlast, hlastValue _, ?_, ?_⟩
  · rw [ne_eq, hsame]
    exact hdiffer
  · rw [ne_eq, heq]
    exact hdiffer

end HtmlComponent
