import SpecBundle.Sha256
import SpecBundle.Text.Hex

/-!
# Stable identifiers

Every generated object carries an identifier that depends only on what the object is, so that an
unchanged specification gives unchanged identifiers. A `Seed` says what the object is: its kind
and the names that lead to it. Its text joins them with colons, and the identifier is the first
half of the digest of that text, written in groups of 8-4-4-4-12 hexadecimal digits.
-/

namespace SpecBundle

/-- What an identifier is derived from. -/
structure Seed where
  /-- The kind of the object, such as `form` or `cell`. -/
  kind : String
  /-- The names that lead to the object, outermost first. -/
  parts : List String
  deriving DecidableEq, Repr

/-- The kind and the parts, joined with colons. -/
def Seed.text (seed : Seed) : String :=
  seed.parts.foldl (fun joined part => joined ++ ":" ++ part) seed.kind

/-- An identifier of sixteen bytes. -/
structure StableId where
  /-- The bytes in the order in which they are written. -/
  bytes : List UInt8
  /-- There are sixteen of them. -/
  length_eq : bytes.length = 16

namespace StableId

/-- The first sixteen bytes of the digest of a text. -/
def ofText (text : String) : StableId where
  bytes := (Sha256.digest text.toUTF8.toList).take 16
  length_eq := by simp

/-- The identifier of a seed. -/
def ofSeed (seed : Seed) : StableId :=
  ofText seed.text

/-- The digits of so many bytes from a position on. -/
def digits (id : StableId) (position count : Nat) : List Char :=
  Hex.ofBytes ((id.bytes.drop position).take count)

/-- The identifier in groups of 8-4-4-4-12 digits. -/
def toString (id : StableId) : String :=
  String.ofList (id.digits 0 4 ++ '-' :: id.digits 4 2 ++ '-' :: id.digits 6 2 ++
    '-' :: id.digits 8 2 ++ '-' :: id.digits 10 6)

/-- The identifier between braces. -/
def braced (id : StableId) : String :=
  "\x7b" ++ id.toString ++ "\x7d"

end StableId

end SpecBundle
