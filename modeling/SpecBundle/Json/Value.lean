import SpecBundle.Json.Number

/-!
# JSON values as they are written

A `Value` keeps what a reader may still have to judge: the spelling of numbers, repeated keys, and
string literals that denote no text because they escape half of a surrogate pair. Fields that
nobody reads may hold such things, so they are not refused here; `Value.isSound` says whether a
value that is kept as a whole has none of them and is not nested too deeply.
-/

namespace SpecBundle.Json

/-- A JSON value. -/
inductive Value where
  /-- The literal `null`. -/
  | null
  /-- `true` or `false`. -/
  | bool (b : Bool)
  /-- A number, by its spelling. -/
  | number (literal : Literal)
  /-- A string; `none` if its literal escapes half of a surrogate pair. -/
  | text (content : Option String)
  /-- An array. -/
  | array (items : List Value)
  /-- An object: its keys and values in order, repeated keys included. -/
  | object (fields : List (Option String × Value))
  deriving Inhabited

/-- The number of containers that may enclose each other in a value that is read. -/
def maximumNesting : Nat := 127

/-- Whether a value can be kept as a whole where `room` more containers may be opened: all its
strings denote texts and all its numbers are finite. -/
def Value.isSound : (room : Nat) → Value → Bool
  | _, .null => true
  | _, .bool _ => true
  | _, .number literal => literal.toNumber?.isSome
  | _, .text content => content.isSome
  | 0, .array _ => false
  | room + 1, .array items => items.all (isSound room)
  | 0, .object _ => false
  | room + 1, .object fields => fields.all fun field => field.1.isSome && isSound room field.2

end SpecBundle.Json
