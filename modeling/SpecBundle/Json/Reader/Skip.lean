import SpecBundle.Json.Reader.Scalar

/-!
# Reading past values

A value of which nothing is kept may be nested to any depth, so `skip` holds the containers that
are open in a list and does not go into them by recursion.
-/

namespace SpecBundle.Json

/-- A kind of value that holds values. -/
inductive Container where
  /-- An array. -/
  | list
  /-- An object. -/
  | object
  deriving DecidableEq, Repr

namespace Container

/-- The character that ends the container. -/
def closing : Container → Char
  | .list => ']'
  | .object => '\x7d'

/-- The fault of a text that ends inside of the container. -/
def cutOff : Container → FaultCause
  | .list => .endOfList
  | .object => .endOfObject

/-- The fault of an item that is followed by neither a comma nor the end of the container. -/
def expectedEnd : Container → FaultCause
  | .list => .expectedListEnd
  | .object => .expectedObjectEnd

end Container

namespace Reader

/-- Reads the colon behind a key. -/
def colon : Reader Unit := do
  match ← peekVisible? with
  | none => failAhead .endOfObject
  | some c => if c = ':' then eat else failAhead .expectedColon

/-- Reads past what precedes the value of an item: the key and the colon in an object. -/
def skipKey : Container → Reader Unit
  | .list => return
  | .object => do
    match ← peekVisible? with
    | none => failAhead .endOfObject
    | some c =>
      if c = '"' then
        skipText
        colon
      else failAhead .keyNotText

/-- Reads past the ends of open containers, innermost first, until one has another item, and past
its key; gives the containers that are still open. In a container that has just been opened the
first item needs no comma. -/
def close : (isFirst : Bool) → List Container → Reader (List Container)
  | _, [] => return []
  | isFirst, k :: outer => do
    match ← peekVisible? with
    | none => failAhead k.cutOff
    | some c =>
      if c = k.closing then
        eat
        close false outer
      else if isFirst then
        skipKey k
        return k :: outer
      else if c = ',' then
        eat
        skipKey k
        return k :: outer
      else failAhead k.expectedEnd

/-- Reads past a value, or only past its first character if it is a container, which is given
then. -/
def skipStart : Reader (Option Container) := do
  match ← peekVisible? with
  | none => failAhead .endOfValue
  | some c =>
    if c = '[' then
      eat
      return some .list
    else if c = '\x7b' then
      eat
      return some .object
    else
      if c = 'n' then name ['n', 'u', 'l', 'l']
      else if c = 't' then name ['t', 'r', 'u', 'e']
      else if c = 'f' then name ['f', 'a', 'l', 's', 'e']
      else if c = '"' then skipText
      else if c = '-' || c.isDigit then discard (literal .badNumber)
      else failAhead .expectedValue
      return none

/-- Reads past a value in open containers, and past all that is left of them. Each value takes one
unit of fuel, so the text has ended when there is none. -/
def skipFrom : (fuel : Nat) → List Container → Reader Unit
  | 0, _ => failAhead .endOfValue
  | fuel + 1, outer => do
    let left ←
      match ← skipStart with
      | some k => close true (k :: outer)
      | none => close false outer
    if left.isEmpty then return else skipFrom fuel left

/-- Reads past a value. -/
def skip : Reader Unit := do
  skipFrom (← bound) []

end Reader

end SpecBundle.Json
