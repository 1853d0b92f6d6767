import HtmlComponent.Text.Join
import HtmlComponent.Text.Quoted

/-!
# JSON values

JSON values whose numbers are integers, and their compact text: no blanks, members in the order
given.
-/

namespace HtmlComponent

inductive Json where
  | null
  | bool (value : Bool)
  | int (value : Int)
  | string (value : String)
  | array (items : List Json)
  | object (members : List (String × Json))

namespace Json

mutual

/-- The compact text of a value. -/
def text : Json → String
  | .null => "null"
  | .bool true => "true"
  | .bool false => "false"
  | .int value => toString value
  | .string value => Text.jsonString value
  | .array items => "[" ++ Text.joinWith "," (texts items) ++ "]"
  | .object members => "\x7b" ++ Text.joinWith "," (memberTexts members) ++ "\x7d"

def texts : List Json → List String
  | [] => []
  | item :: rest => item.text :: texts rest

def memberTexts : List (String × Json) → List String
  | [] => []
  | (key, value) :: rest => (Text.jsonString key ++ ":" ++ value.text) :: memberTexts rest

end

/-- A list of texts as an array of strings. -/
def strings (values : List String) : Json :=
  .array (values.map .string)

/-- An optional text: a string or null. -/
def optional : Option String → Json
  | none => .null
  | some value => .string value

end Json

end HtmlComponent
