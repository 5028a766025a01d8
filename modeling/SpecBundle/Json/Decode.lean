import SpecBundle.Json.Value

/-!
# Decoding JSON values into records

A record is written as an object of its fields or as an array of them in declared order. An
object may hold fields that the record does not have, and they are ignored, but none of the
record's own twice. `Located.record?` checks this and `Record` gives the fields out one by one.
-/

namespace SpecBundle.Json

/-- A value inside a text, with the number of containers around it. -/
structure Located where
  /-- The value. -/
  value : Value
  /-- How many containers enclose it. -/
  enclosing : Nat

/-- Reads a value of some type. -/
abbrev Decoder (α : Type) := Located → Option α

/-- Reads a string. -/
def text? : Decoder String
  | ⟨.text content, _⟩ => content
  | _ => none

/-- Reads `true` or `false`. -/
def bool? : Decoder Bool
  | ⟨.bool b, _⟩ => some b
  | _ => none

/-- Reads an integer between two bounds. -/
def integer? (least greatest : Int) : Decoder Int
  | ⟨.number literal, _⟩ => literal.toIntBetween? least greatest
  | _ => none

/-- Reads an unsigned integer of so many bits. -/
def unsigned? (bits : Nat) : Decoder Nat := fun v =>
  (integer? 0 (Nat.pow 2 bits - 1) v).map Int.toNat

/-- Reads a signed integer of 64 bits. -/
def signed64? : Decoder Int :=
  integer? leastSigned greatestSigned

/-- Reads an array of values of one type. -/
def list? (item : Decoder α) : Decoder (List α)
  | ⟨.array items, n⟩ => items.mapM fun v => item ⟨v, n + 1⟩
  | _ => none

/-- Reads any value, provided that it is sound. -/
def any? : Decoder Value := fun v =>
  if v.value.isSound (maximumNesting - v.enclosing) then some v.value else none

/-- Reads one of several names, written as a string or as the only key of an object with the
value `null`. -/
def oneOf? (names : List (String × α)) : Decoder α
  | ⟨.text (some name), _⟩ => names.lookup name
  | ⟨.object [(some name, .null)], _⟩ => names.lookup name
  | _ => none

/-- Whether a field of a record may be left out. -/
inductive Presence where
  /-- The field must be written. -/
  | required
  /-- An object may leave the field out; an array may not. -/
  | optional
  /-- The field may be left out. -/
  | defaulted
  deriving DecidableEq

/-- The fields that a record has. -/
structure Record where
  /-- The names and values of the fields that are written. -/
  fields : List (String × Value)
  /-- How many containers enclose the fields. -/
  enclosing : Nat

/-- The fields of an object that belong to the shape, if none of them is repeated. -/
def knownFields? (shape : List (String × Presence)) :
    List (Option String × Value) → Option (List (String × Value))
  | [] => some []
  | (none, _) :: _ => none
  | (some key, value) :: rest => do
    let known ← knownFields? shape rest
    if (shape.lookup key).isNone then some known
    else if (known.lookup key).isSome then none
    else some ((key, value) :: known)

/-- The fields of a record of a shape, which lists them in declared order. -/
def Located.record? (shape : List (String × Presence)) : Located → Option Record
  | ⟨.object fields, n⟩ => (knownFields? shape fields).map fun known => ⟨known, n + 1⟩
  | ⟨.array items, n⟩ =>
    if items.length ≤ shape.length &&
        (shape.drop items.length).all (fun field => field.2 == .defaulted) then
      some ⟨(shape.map (·.1)).zip items, n + 1⟩
    else none
  | _ => none

namespace Record

/-- Reads a field that must be there. -/
def required? (r : Record) (name : String) (decode : Decoder α) : Option α := do
  decode ⟨← r.fields.lookup name, r.enclosing⟩

/-- Reads a field, or gives the default if it is not there. -/
def getD? (r : Record) (name : String) (decode : Decoder α) (default : α) : Option α :=
  match r.fields.lookup name with
  | none => some default
  | some value => decode ⟨value, r.enclosing⟩

/-- Reads a field that may be `null` or not there. -/
def optional? (r : Record) (name : String) (decode : Decoder α) : Option (Option α) :=
  match r.fields.lookup name with
  | none => some none
  | some .null => some none
  | some value => (decode ⟨value, r.enclosing⟩).map some

end Record

/-- Reads an object as a table from keys to values of one type; of a repeated key the last value
holds. The entries are in the order of their keys. -/
def entries? (item : Decoder α) : Decoder (List (String × α))
  | ⟨.object fields, n⟩ => do
    let entries ← fields.mapM fun field => do
      return (← field.1, ← item ⟨field.2, n + 1⟩)
    let latest := entries.foldr
      (fun entry kept => if (kept.lookup entry.1).isSome then kept else entry :: kept) []
    return latest.mergeSort fun e f => !(f.1 < e.1)
  | _ => none

end SpecBundle.Json
