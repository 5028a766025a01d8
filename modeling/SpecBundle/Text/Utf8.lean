/-!
# Reading UTF-8

`decode` reads bytes one at a time. Where they are not UTF-8 it gives `none` once for each longest
start of a character, so that `strict?` can refuse the text and `lossy` can put one replacement
character in each such place. A byte order mark at the start is not part of a text.
-/

namespace SpecBundle.Utf8

/-- A character that has started: how many bytes it still needs, the bounds of the next one, and
the bits so far. -/
structure Pending where
  /-- How many more bytes belong to the character. -/
  needed : Nat
  /-- The least value of the next byte. -/
  least : Nat
  /-- The greatest value of the next byte. -/
  greatest : Nat
  /-- The bits of the bytes so far. -/
  bits : Nat

/-- What a byte starts: a character, the first byte of a longer one, or nothing. -/
inductive Start where
  /-- A character of one byte. -/
  | char (c : Char)
  /-- The first byte of a longer character. -/
  | longer (pending : Pending)
  /-- No character starts with the byte. -/
  | invalid

/-- What a byte starts. The bounds of the second byte exclude spellings that are longer than
needed, halves of surrogate pairs and numbers beyond the last character. -/
def start (b : Nat) : Start :=
  if b < 0x80 then .char (Char.ofNat b)
  else if b < 0xC2 then .invalid
  else if b < 0xE0 then .longer ⟨1, 0x80, 0xBF, b - 0xC0⟩
  else if b < 0xF0 then
    .longer ⟨2, if b = 0xE0 then 0xA0 else 0x80, if b = 0xED then 0x9F else 0xBF, b - 0xE0⟩
  else if b < 0xF5 then
    .longer ⟨3, if b = 0xF0 then 0x90 else 0x80, if b = 0xF4 then 0x8F else 0xBF, b - 0xF0⟩
  else .invalid

/-- A byte between characters, with the characters so far, latest first. -/
def begin? (read : List (Option Char)) (b : UInt8) : Option Pending × List (Option Char) :=
  match start b.toNat with
  | .char c => (none, some c :: read)
  | .longer pending => (some pending, read)
  | .invalid => (none, none :: read)

/-- One byte, with the character that has started and the characters so far, latest first. A byte
that does not continue a character starts another. -/
def step : Option Pending × List (Option Char) → UInt8 → Option Pending × List (Option Char)
  | (none, read), b => begin? read b
  | (some p, read), b =>
    let n := b.toNat
    if p.least ≤ n && n ≤ p.greatest then
      let bits := p.bits * 64 + (n - 0x80)
      if p.needed ≤ 1 then (none, some (Char.ofNat bits) :: read)
      else (some ⟨p.needed - 1, 0x80, 0xBF, bits⟩, read)
    else begin? (none :: read) b

/-- The characters of a list of bytes, and `none` for each longest start of a character that is
not finished and for each byte that starts none. -/
def decode (bytes : List UInt8) : List (Option Char) :=
  let (pending, read) := bytes.foldl step (none, [])
  (if pending.isSome then none :: read else read).reverse

/-- The bytes without a byte order mark at the start. -/
def withoutMark : List UInt8 → List UInt8
  | 0xEF :: 0xBB :: 0xBF :: rest => rest
  | bytes => bytes

/-- The text of bytes that are UTF-8. -/
def strict? (bytes : List UInt8) : Option String :=
  ((decode (withoutMark bytes)).mapM id).map String.ofList

/-- The text of any bytes, with the replacement character where they are not UTF-8. -/
def lossy (bytes : List UInt8) : String :=
  String.ofList ((decode (withoutMark bytes)).map (·.getD '\uFFFD'))

end SpecBundle.Utf8
