import HtmlComponent.Attributes
import HtmlComponent.Text.Visible

/-!
# Events

Markup as a flat sequence: a tag opens, a text stands, the innermost open tag closes.
-/

namespace HtmlComponent

inductive Event where
  | openTag (name : String) (attributes : Attributes)
  | text (value : String)
  | closeTag

namespace Event

/-- A tag that opens with these attributes; of a repeated name the last value counts. -/
def ofPairs (name : String) (pairs : List (String × String)) : Event :=
  .openTag name (.ofPairs pairs)

/-- Whether two events are the same up to the order of attributes. -/
def same : Event → Event → Bool
  | .openTag m as, .openTag n bs => m == n && as.same bs
  | .text v, .text w => v == w
  | .closeTag, .closeTag => true
  | _, _ => false

def sameList : List Event → List Event → Bool
  | [], [] => true
  | x :: xs, y :: ys => x.same y && sameList xs ys
  | _, _ => false

def describePairs : List (String × String) → String
  | [] => ""
  | [(name, value)] => Text.visible name ++ ": " ++ Text.visible value
  | (name, value) :: rest =>
    Text.visible name ++ ": " ++ Text.visible value ++ ", " ++ describePairs rest

/-- An event as log records show it. -/
def describe : Event → String
  | .openTag name attributes =>
    "Open \x7b name: " ++ Text.visible name ++ ", attributes: \x7b" ++
      describePairs attributes.entries ++ "\x7d \x7d"
  | .text value => "Text(" ++ Text.visible value ++ ")"
  | .closeTag => "Close"

end Event

end HtmlComponent
