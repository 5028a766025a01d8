/-!
# Integers in decimal

The text of an integer: its digits without leading zeros, after a minus sign if it is negative.
-/

namespace SpecBundle.Decimal

/-- The digits of a natural number. -/
def ofNat (n : Nat) : String :=
  String.ofList (Nat.toDigits 10 n)

/-- Every character of a number is a digit. -/
theorem isDigit_of_mem_ofNat {n : Nat} {c : Char} (h : c ∈ (ofNat n).toList) : c.isDigit := by
  rw [ofNat, String.toList_ofList] at h
  exact Nat.isDigit_of_mem_toDigits (by decide) (by decide) h

/-- Different numbers have different digits. -/
theorem ofNat_inj {m n : Nat} : ofNat m = ofNat n ↔ m = n := by
  refine ⟨fun h => ?_, congrArg ofNat⟩
  have digits : Nat.toDigits 10 m = Nat.toDigits 10 n := String.ofList_inj.1 h
  have value := congrArg (Nat.ofDigitChars 10 · 0) digits
  simpa using value

/-- The digits of an integer, after a minus sign if it is negative. -/
def ofInt : Int → String
  | .ofNat n => ofNat n
  | .negSucc n => "-" ++ ofNat (n + 1)

end SpecBundle.Decimal
