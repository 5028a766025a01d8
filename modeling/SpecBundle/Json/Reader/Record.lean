import SpecBundle.Json.Reader.Skip

/-!
# Reading values of a shape

A record is written as an object of its fields or as an array of them in declared order, as
everywhere in JSON files here. `record` starts from a value without any fields and lets every
field that is read change it.
-/

namespace SpecBundle.Json

/-- A field of a record that is read into an `α`. -/
structure Field (α : Type) where
  /-- The name. -/
  name : String
  /-- Whether an array of the fields may leave it out. An object always may. -/
  isDefaulted : Bool
  /-- Reads the value of the field, and gives what it does to the record. -/
  read : Reader (α → α)

namespace Reader

/-! ## Values of no other shape -/

/-- What stands in the text, read as far as it takes to say so. -/
def found : Reader Found := do
  match ← peek? with
  | none => failAhead .expectedValue
  | some c =>
    if c = 'n' then
      name ['n', 'u', 'l', 'l']
      return .null
    else if c = 't' then
      name ['t', 'r', 'u', 'e']
      return .bool true
    else if c = 'f' then
      name ['f', 'a', 'l', 's', 'e']
      return .bool false
    else if c = '"' then return .text (← text)
    else if c = '[' then return .list
    else if c = '\x7b' then return .object
    else if c = '-' || c.isDigit then return .ofNumber (← number)
    else failAhead .expectedValue

/-- Fails because the value that comes next is not of a shape. -/
def wrongShape (expected : Shape) : Reader α := do
  fail (.wrongShape (← found) expected)

/-- Reads a string. -/
def string : Reader String := do
  match ← peekVisible? with
  | none => failAhead .endOfValue
  | some c => if c = '"' then text else wrongShape .text

/-- Reads a value that may be `null`. -/
def optional (value : Reader α) : Reader (Option α) := do
  if (← peekVisible?) == some 'n' then
    name ['n', 'u', 'l', 'l']
    return none
  else return some (← value)

/-! ## Arrays -/

/-- Whether a container has another item; the character that comes next is its first one, or else
the one that ends the container. -/
def hasNext (k : Container) (isFirst : Bool) : Reader Bool := do
  match ← peekVisible? with
  | none => failAhead k.cutOff
  | some c =>
    if c = k.closing then return false
    else if isFirst then return true
    else if c = ',' then
      eat
      match ← peekVisible? with
      | none => failAhead .endOfValue
      | some c => if c = k.closing then failAhead .trailingComma else return true
    else failAhead k.expectedEnd

/-- Reads the end of an array of which no more items are wanted. -/
def listEnd : Reader Unit := do
  match ← peekVisible? with
  | none => failAhead .endOfList
  | some c =>
    if c = ']' then eat
    else if c = ',' then
      eat
      failAhead (if (← peekVisible?) == some ']' then .trailingComma else .trailingText)
    else failAhead .trailingText

/-- Reads the rest of an array, with the items that are read, latest first. Each item takes one
unit of fuel, so the text has ended when there is none. -/
def itemsFrom (item : Reader α) : (fuel : Nat) → (read : List α) → Reader (List α)
  | 0, _ => failAhead .endOfList
  | fuel + 1, read => do
    if ← hasNext .list read.isEmpty then itemsFrom item fuel ((← item) :: read)
    else
      listEnd
      return read.reverse

/-- Reads an array of values of one shape. -/
def list (item : Reader α) : Reader (List α) := do
  match ← peekVisible? with
  | none => failAhead .endOfValue
  | some c =>
    if c = '[' then
      eat
      itemsFrom item (← bound) []
    else wrongShape .list

/-! ## Records -/

/-- Reads fields from an array in their order, with what the fields before made of the record. -/
def fieldsInOrder (recordName : String) (count : Nat) :
    (isFirst : Bool) → List (Field α) → α → Reader α
  | _, [], a => do
    listEnd
    return a
  | isFirst, f :: fields, a => do
    if ← hasNext .list isFirst then
      fieldsInOrder recordName count false fields ((← f.read) a)
    else if f.isDefaulted then fieldsInOrder recordName count isFirst fields a
    else
      listEnd
      fail (.tooShort (count - fields.length - 1) recordName count)

/-- Reads a key of an object; none at the end of the object. -/
def key? (isFirst : Bool) : Reader (Option String) := do
  if ← hasNext .object isFirst then
    if (← peek?) == some '"' then return some (← text) else failAhead .keyNotText
  else
    eat
    return none

/-- Fails because a field is given twice; an object that ends at the key ends before the fault. -/
def repeatedField (field : String) : Reader α := do
  let _ ← peekVisible?
  let _ ← eatIf (· == '\x7d')
  fail (.repeatedField field)

/-- Reads fields from an object by their keys, with the names of those that were read and what
they made of the record. Each key takes one unit of fuel, so the text has ended when there is
none. -/
def fieldsByName (fields : List (Field α)) :
    (fuel : Nat) → (isFirst : Bool) → (read : List String) → α → Reader α
  | 0, _, _, _ => failAhead .endOfObject
  | fuel + 1, isFirst, read, a => do
    match ← key? isFirst with
    | none => return a
    | some key =>
      match fields.find? (·.name == key) with
      | none =>
        colon
        skip
        fieldsByName fields fuel false read a
      | some f =>
        if read.contains key then repeatedField key
        else
          colon
          fieldsByName fields fuel false (key :: read) ((← f.read) a)

/-- Reads a record of some name and fields, from what it is without any of them. -/
def record (recordName : String) (fields : List (Field α)) (start : α) : Reader α := do
  match ← peekVisible? with
  | none => failAhead .endOfValue
  | some c =>
    if c = '[' then
      eat
      fieldsInOrder recordName fields.length true fields start
    else if c = '\x7b' then
      eat
      fieldsByName fields (← bound) true [] start
    else wrongShape (.record recordName)

end Reader

namespace Field

/-- A field that may be `null`. -/
def optional (name : String) (value : Reader β) (set : Option β → α → α) : Field α :=
  ⟨name, false, set <$> Reader.optional value⟩

/-- A field that has a default. -/
def defaulted (name : String) (value : Reader β) (set : β → α → α) : Field α :=
  ⟨name, true, set <$> value⟩

end Field

end SpecBundle.Json
