import SpecBundle.Json.Token

/-!
# Reading JSON text

`Value.parse?` reads a text that holds exactly one value. The tokens drive a machine that holds
the containers still open, innermost first, so the depth of a value is bounded by nothing but its
length.
-/

namespace SpecBundle.Json

/-- A container that is still open, with what it holds so far, latest first. -/
inductive Frame where
  /-- An array that waits for an item. -/
  | array (items : List Value)
  /-- An object that waits for the value of a key. -/
  | object (fields : List (Option String × Value)) (key : Option String)

/-- What the machine is ready for. -/
inductive Expectation where
  /-- A value. -/
  | value
  /-- The first item of an array, or its end. -/
  | firstItem
  /-- A key, or the end of the object if it holds nothing yet and no comma was read. -/
  | key (fields : List (Option String × Value)) (mayEnd : Bool)
  /-- The colon after a key. -/
  | colon (fields : List (Option String × Value)) (key : Option String)
  /-- What follows a complete value. -/
  | follow (value : Value)

/-- The open containers and what comes next. -/
structure Reading where
  /-- The open containers, innermost first. -/
  stack : List Frame
  /-- What may come next. -/
  expect : Expectation

namespace Reading

/-- Starts a value with its first token. -/
def startValue (stack : List Frame) : Token → Option Reading
  | .null => some ⟨stack, .follow .null⟩
  | .bool b => some ⟨stack, .follow (.bool b)⟩
  | .number literal => some ⟨stack, .follow (.number literal)⟩
  | .text content => some ⟨stack, .follow (.text content)⟩
  | .openBracket => some ⟨stack, .firstItem⟩
  | .openBrace => some ⟨stack, .key [] true⟩
  | _ => none

/-- Goes on after a complete value: a comma or the end of the innermost container. -/
def continueAfter (value : Value) : List Frame → Token → Option Reading
  | .array items :: stack, .comma => some ⟨.array (value :: items) :: stack, .value⟩
  | .array items :: stack, .closeBracket => some ⟨stack, .follow (.array (value :: items).reverse)⟩
  | .object fields key :: stack, .comma => some ⟨stack, .key ((key, value) :: fields) false⟩
  | .object fields key :: stack, .closeBrace =>
    some ⟨stack, .follow (.object ((key, value) :: fields).reverse)⟩
  | _, _ => none

/-- One token. -/
def step (r : Reading) (token : Token) : Option Reading :=
  match r.expect, token with
  | .value, token => startValue r.stack token
  | .firstItem, .closeBracket => some ⟨r.stack, .follow (.array [])⟩
  | .firstItem, token => startValue (.array [] :: r.stack) token
  | .key _ true, .closeBrace => some ⟨r.stack, .follow (.object [])⟩
  | .key fields _, .text key => some ⟨r.stack, .colon fields key⟩
  | .key _ _, _ => none
  | .colon fields key, .colon => some ⟨.object fields key :: r.stack, .value⟩
  | .colon _ _, _ => none
  | .follow value, token => continueAfter value r.stack token

/-- The value of a finished reading. -/
def result? (r : Reading) : Option Value :=
  match r.stack, r.expect with
  | [], .follow value => some value
  | _, _ => none

end Reading

/-- The value that a text holds. -/
def Value.parse? (text : String) : Option Value := do
  (← (← Token.scan text).foldlM Reading.step ⟨[], .value⟩).result?

end SpecBundle.Json
