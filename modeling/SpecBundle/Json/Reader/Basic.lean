import SpecBundle.Json.Fault
import SpecBundle.Json.Token

/-!
# Readers of JSON text

A `Reader` takes something from the front of a text, or says where and why it is not there. A
fault is either told of the place that is reached (`fail`) or of the character that comes next,
and then of the place one byte further (`failAhead`).
-/

namespace SpecBundle.Json

/-- A text that is read up to some place. -/
structure Cursor where
  /-- What is left of it. -/
  rest : List Char
  /-- The place. -/
  position : Text.Position
  /-- The number of characters of the whole text, so of all that is left too. -/
  size : Nat

/-- Reads something from the front of a text. -/
abbrev Reader (α : Type) := StateT Cursor (Except Fault) α

namespace Reader

/-- Fails at the place that is reached. -/
def fail (cause : FaultCause) : Reader α := fun c =>
  .error ⟨cause, c.position⟩

/-- Fails at the character that comes next. -/
def failAhead (cause : FaultCause) : Reader α := fun c =>
  .error ⟨cause, c.position.afterBytes 1 c.rest⟩

/-- How often at most a character can be read. -/
def bound : Reader Nat := fun c => .ok (c.size, c)

/-- The character that comes next. -/
def peek? : Reader (Option Char) := fun c => .ok (c.rest.head?, c)

/-- Goes on behind the next character. -/
def eat : Reader Unit := fun c =>
  match c.rest with
  | [] => .ok ((), c)
  | next :: rest => .ok ((), { c with rest := rest, position := c.position.after next })

/-- Goes on behind the next character if it is of a class, and says whether it was. -/
def eatIf (p : Char → Bool) : Reader Bool := do
  if (← peek?).any p then
    eat
    return true
  else return false

/-- Goes on behind all characters of a class that come next, and gives them. -/
def eatWhile (p : Char → Bool) : Reader (List Char) := fun c =>
  let read := c.rest.takeWhile p
  let place := read.foldl Text.Position.after c.position
  .ok (read, { c with rest := c.rest.dropWhile p, position := place })

/-- Goes on behind blanks and gives the character that comes next. -/
def peekVisible? : Reader (Option Char) := do
  let _ ← eatWhile Token.isBlank
  peek?

/-- Reads the characters of one of the three names. -/
def name : List Char → Reader Unit
  | [] => return
  | expected :: more => do
    match ← peek? with
    | none => fail .endOfValue
    | some c =>
      if c = expected then
        eat
        name more
      else failAhead .expectedName

/-- What a reader makes of a text that it has to read to the end, blanks apart. -/
def run (reader : Reader α) (text : String) : Except Fault α := do
  let whole : Reader α := do
    let a ← reader
    if (← peekVisible?).isSome then failAhead .trailingText else return a
  return (← whole ⟨text.toList, .start, text.length⟩).1

end Reader

end SpecBundle.Json
