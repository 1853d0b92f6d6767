import HtmlComponent.Options.Decimal
import HtmlComponent.Text.Visible

/-!
# Faults in written options

Why a text cannot be read as options, and at which line and column.
-/

namespace HtmlComponent.Options

/-- A value that stands where another kind of value is due. -/
inductive Found where
  | null
  | bool (value : Bool)
  | int (value : Int)
  | double (value : Float)
  | string (value : String)
  | sequence
  | map

def Found.describe : Found → String
  | .null => "null"
  | .bool true => "boolean `true`"
  | .bool false => "boolean `false`"
  | .int value => "integer `" ++ toString value ++ "`"
  | .double value => "floating point `" ++ doubleText value ++ "`"
  | .string value => "string " ++ Text.visible value
  | .sequence => "sequence"
  | .map => "map"

/-- What the reader was looking for. -/
inductive Wanted where
  | options
  | text

def Wanted.describe : Wanted → String
  | .options => "struct TranspileOptions"
  | .text => "a string"

/-- The two fields of options. -/
inductive Field where
  | name
  | styleLibrary
  deriving DecidableEq

def Field.key : Field → String
  | .name => "name"
  | .styleLibrary => "styleLibrary"

inductive Reason where
  | eofValue
  | eofList
  | eofObject
  | eofString
  | expectedValue
  | expectedIdent
  | expectedColon
  | expectedListCommaOrEnd
  | expectedObjectCommaOrEnd
  | keyMustBeString
  | trailingComma
  | trailingCharacters
  | invalidNumber
  | numberOutOfRange
  | invalidEscape
  | loneSurrogate
  | unfinishedSurrogatePair
  | controlCharacter
  | duplicateField (field : Field)
  | invalidType (found : Found) (wanted : Wanted)

def Reason.message : Reason → String
  | .eofValue => "EOF while parsing a value"
  | .eofList => "EOF while parsing a list"
  | .eofObject => "EOF while parsing an object"
  | .eofString => "EOF while parsing a string"
  | .expectedValue => "expected value"
  | .expectedIdent => "expected ident"
  | .expectedColon => "expected `:`"
  | .expectedListCommaOrEnd => "expected `,` or `]`"
  | .expectedObjectCommaOrEnd => "expected `,` or `\x7d`"
  | .keyMustBeString => "key must be a string"
  | .trailingComma => "trailing comma"
  | .trailingCharacters => "trailing characters"
  | .invalidNumber => "invalid number"
  | .numberOutOfRange => "number out of range"
  | .invalidEscape => "invalid escape"
  | .loneSurrogate => "lone leading surrogate in hex escape"
  | .unfinishedSurrogatePair => "unexpected end of hex escape"
  | .controlCharacter => "control character (\\u0000-\\u001F) found while parsing a string"
  | .duplicateField field => "duplicate field `" ++ field.key ++ "`"
  | .invalidType found wanted =>
    "invalid type: " ++ found.describe ++ ", expected " ++ wanted.describe

/-- A reason with its place: lines count from one, columns are bytes since the line began. -/
structure Fault where
  reason : Reason
  line : Nat
  column : Nat

def Fault.message (f : Fault) : String :=
  f.reason.message ++ " at line " ++ toString f.line ++ " column " ++ toString f.column

/-- Where reading stopped: the reason, and how many bytes of the text lie behind the place. -/
structure Stop where
  reason : Reason
  left : Nat

/-- Line and column after some bytes, given those of the place before them. -/
def advance (place : Nat × Nat) (byte : UInt8) : Nat × Nat :=
  if byte == 10 then (place.1 + 1, 0) else (place.1, place.2 + 1)

/-- The place of a stop in the text that was read. -/
def Stop.locate (stop : Stop) (text : String) : Fault :=
  let bytes := text.toUTF8.toList
  let place := (bytes.take (bytes.length - stop.left)).foldl advance (1, 0)
  ⟨stop.reason, place.1, place.2⟩

end HtmlComponent.Options
