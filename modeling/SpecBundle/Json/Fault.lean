import SpecBundle.Decimal.Integer
import SpecBundle.Json.Number
import SpecBundle.Text.Position
import SpecBundle.Text.Quoted

/-!
# Where and why reading fails

A `Fault` says why a text cannot be read and at which place this shows. Some causes lie in the
grammar; the others arise when a value is not of the shape that is asked for.
-/

namespace SpecBundle.Json

/-- What can be asked for. -/
inductive Shape where
  /-- A string. -/
  | text
  /-- An array of values of one shape. -/
  | list
  /-- A record of some name. -/
  | record (name : String)
  deriving DecidableEq, Repr

/-- The shape in words. -/
def Shape.words : Shape → String
  | .text => "a string"
  | .list => "a sequence"
  | .record name => "struct " ++ name

/-- What stands in a text instead. -/
inductive Found where
  /-- The literal `null`. -/
  | null
  /-- `true` or `false`. -/
  | bool (b : Bool)
  /-- An integer of 64 bits. -/
  | integer (n : Int)
  /-- Another number, as it is printed. -/
  | decimal (printed : String)
  /-- A string. -/
  | text (content : String)
  /-- An array. -/
  | list
  /-- An object. -/
  | object
  deriving DecidableEq, Repr

/-- The number in a text. -/
def Found.ofNumber : Number → Found
  | .integer n => .integer n
  | .decimal x => .decimal (decimalText x)

/-- What stands there, in words. -/
def Found.words : Found → String
  | .null => "null"
  | .bool b => "boolean \x60" ++ (if b then "true" else "false") ++ "\x60"
  | .integer n => "integer \x60" ++ Decimal.ofInt n ++ "\x60"
  | .decimal printed => "floating point \x60" ++ printed ++ "\x60"
  | .text content => "string " ++ Text.quoted content
  | .list => "sequence"
  | .object => "map"

/-- Why a text cannot be read. -/
inductive FaultCause where
  /-- The text ends inside of an array. -/
  | endOfList
  /-- The text ends inside of an object. -/
  | endOfObject
  /-- The text ends inside of a string. -/
  | endOfText
  /-- The text ends where a value or the rest of one is needed. -/
  | endOfValue
  /-- No colon follows a key. -/
  | expectedColon
  /-- Neither a comma nor the end of the array follows an item. -/
  | expectedListEnd
  /-- Neither a comma nor the end of the object follows a value. -/
  | expectedObjectEnd
  /-- A word starts like one of the three names and goes on otherwise. -/
  | expectedName
  /-- No value starts with the character. -/
  | expectedValue
  /-- There is no such escape. -/
  | badEscape
  /-- A number is not written like one. -/
  | badNumber
  /-- A number is beyond the largest double. -/
  | numberTooLarge
  /-- A control character stands in a string. -/
  | controlCharacter
  /-- A key is not a string. -/
  | keyNotText
  /-- Half of a surrogate pair stands alone. -/
  | loneSurrogate
  /-- The first half of a surrogate pair is not followed by an escape. -/
  | unfinishedPair
  /-- Nothing follows the last comma. -/
  | trailingComma
  /-- Something follows where nothing may. -/
  | trailingText
  /-- A value is not of the shape that is asked for. -/
  | wrongShape (found : Found) (expected : Shape)
  /-- An array holds too few of the fields of a record. -/
  | tooShort (length : Nat) (name : String) (fields : Nat)
  /-- A field of a record is given twice. -/
  | repeatedField (name : String)
  deriving DecidableEq, Repr

/-- The cause in words. -/
def FaultCause.words : FaultCause → String
  | .endOfList => "EOF while parsing a list"
  | .endOfObject => "EOF while parsing an object"
  | .endOfText => "EOF while parsing a string"
  | .endOfValue => "EOF while parsing a value"
  | .expectedColon => "expected \x60:\x60"
  | .expectedListEnd => "expected \x60,\x60 or \x60]\x60"
  | .expectedObjectEnd => "expected \x60,\x60 or \x60\x7d\x60"
  | .expectedName => "expected ident"
  | .expectedValue => "expected value"
  | .badEscape => "invalid escape"
  | .badNumber => "invalid number"
  | .numberTooLarge => "number out of range"
  | .controlCharacter => "control character (\\u0000-\\u001F) found while parsing a string"
  | .keyNotText => "key must be a string"
  | .loneSurrogate => "lone leading surrogate in hex escape"
  | .unfinishedPair => "unexpected end of hex escape"
  | .trailingComma => "trailing comma"
  | .trailingText => "trailing characters"
  | .wrongShape found expected =>
    "invalid type: " ++ found.words ++ ", expected " ++ expected.words
  | .tooShort length name fields =>
    "invalid length " ++ Decimal.ofNat length ++ ", expected struct " ++ name ++ " with " ++
      Decimal.ofNat fields ++ (if fields = 1 then " element" else " elements")
  | .repeatedField name => "duplicate field \x60" ++ name ++ "\x60"

/-- Why and where a text cannot be read. -/
structure Fault where
  /-- Why. -/
  cause : FaultCause
  /-- Where. -/
  position : Text.Position
  deriving DecidableEq, Repr

/-- The fault in words. -/
def Fault.message (f : Fault) : String :=
  f.cause.words ++ " at line " ++ Decimal.ofNat f.position.line ++ " column " ++
    Decimal.ofNat f.position.column

end SpecBundle.Json
