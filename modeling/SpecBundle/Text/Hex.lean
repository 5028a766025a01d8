/-!
# Hexadecimal digits
-/

namespace SpecBundle.Hex

/-- The lowercase hexadecimal digit of `n < 16`. -/
def digit (n : Nat) : Char :=
  if n < 10 then Char.ofNat (48 + n) else Char.ofNat (87 + n)

/-- The two digits of `n < 256`, the high one first. -/
def byte (n : Nat) : List Char :=
  [digit (n / 16), digit (n % 16)]

/-- Bytes in two digits each. -/
def ofBytes (bytes : List UInt8) : List Char :=
  bytes.flatMap fun b => byte b.toNat

/-- There are two digits for each byte. -/
theorem length_ofBytes (bytes : List UInt8) : (ofBytes bytes).length = 2 * bytes.length := by
  induction bytes with
  | nil => rfl
  | cons b rest ih =>
    have h : ofBytes (b :: rest) = byte b.toNat ++ ofBytes rest := rfl
    rw [h, List.length_append, ih, List.length_cons]
    simp only [byte, List.length_cons, List.length_nil]
    omega

end SpecBundle.Hex
