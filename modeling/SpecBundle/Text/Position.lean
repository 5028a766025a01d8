/-!
# Places in a text

A place is told by its line and by the number of bytes that stand before it on that line. Bytes
are counted and not characters, so a place may lie inside of a character.
-/

namespace SpecBundle.Text

/-- A place in a text. -/
structure Position where
  /-- The line, counted from one. -/
  line : Nat
  /-- The number of bytes of the line before the place. -/
  column : Nat
  deriving DecidableEq, Repr

namespace Position

/-- The start of a text. -/
def start : Position := ⟨1, 0⟩

/-- The place behind a character. -/
def after (p : Position) (c : Char) : Position :=
  if c = '\n' then ⟨p.line + 1, 0⟩ else ⟨p.line, p.column + c.utf8Size⟩

/-- The place so many bytes further in the characters that follow, which may be inside of a
character, or the end if there are fewer bytes. -/
def afterBytes (p : Position) : (bytes : Nat) → List Char → Position
  | 0, _ => p
  | _, [] => p
  | bytes, c :: rest =>
    if c.utf8Size ≤ bytes then (p.after c).afterBytes (bytes - c.utf8Size) rest
    else ⟨p.line, p.column + bytes⟩

end Position

end SpecBundle.Text
