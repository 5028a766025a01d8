import SpecBundle.Decimal.Integer
import SpecBundle.Decimal.Shortest

/-!
# Number literals

A number literal keeps its spelling: whether it is written as an integer decides which fields
accept it and how it is printed. Everything that is not an integer of 64 bits is a double. It is
computed from the leading digits that fit 64 bits by one multiplication or division with a power
of ten (`Literal.toFloat?`), and is printed as the shortest decimal that reads back
(`decimalText`).
-/

namespace SpecBundle.Json

/-- A number literal. -/
structure Literal where
  /-- Whether it starts with a minus sign. -/
  negative : Bool
  /-- The values of the digits before the point. -/
  whole : List Nat
  /-- The values of the digits after the point; empty if there is no point. -/
  fraction : List Nat
  /-- The sign (`true` for minus) and the digits of the exponent. -/
  exponent : Option (Bool × List Nat)
  deriving DecidableEq, Repr

/-- The values of a list of decimal digits, if it is not empty and holds nothing else. -/
def digitValues? (cs : List Char) : Option (List Nat) :=
  if cs.isEmpty || !cs.all (·.isDigit) then none else some (cs.map fun c => c.toNat - 48)

/-- The number that digits stand for. -/
def ofDigits (digits : List Nat) : Nat :=
  digits.foldl (fun n d => n * 10 + d) 0

namespace Literal

/-- The literal of a text with an exponent mark before `text`. -/
def exponent? : List Char → Option (Bool × List Nat)
  | '-' :: cs => (digitValues? cs).map (true, ·)
  | '+' :: cs => (digitValues? cs).map (false, ·)
  | cs => (digitValues? cs).map (false, ·)

/-- Reads a literal: digits without a needless leading zero, then optionally a point and digits,
then optionally an exponent. -/
def ofChars? (cs : List Char) : Option Literal := do
  let negative := cs.head? == some '-'
  let cs := if negative then cs.drop 1 else cs
  let whole ← digitValues? (cs.takeWhile (·.isDigit))
  if whole.length > 1 && whole.head? == some 0 then none
  let cs := cs.dropWhile (·.isDigit)
  let fraction ←
    if cs.head? == some '.' then digitValues? ((cs.drop 1).takeWhile (·.isDigit)) else some []
  let cs := if cs.head? == some '.' then (cs.drop 1).dropWhile (·.isDigit) else cs
  match cs with
  | [] => some ⟨negative, whole, fraction, none⟩
  | c :: rest =>
    if c == 'e' || c == 'E' then
      (exponent? rest).map fun e => ⟨negative, whole, fraction, some e⟩
    else none

/-- The integer that a literal without point and exponent stands for. A zero with a minus sign is
not an integer but the negative zero of the doubles. -/
def toInt? (l : Literal) : Option Int :=
  if !l.fraction.isEmpty || l.exponent.isSome then none
  else
    let n := ofDigits l.whole
    if l.negative then (if n = 0 then none else some (-n)) else some n

/-- The integer of a literal, if it lies between the bounds. -/
def toIntBetween? (l : Literal) (least greatest : Int) : Option Int :=
  l.toInt?.filter fun n => least ≤ n && n ≤ greatest

/-- The largest significand that is kept, the largest number of 64 bits. -/
def significandBound : Nat := 18446744073709551615

/-- The significand of the leading digits, for as long as it stays within the bound, and the
digits that did not fit. -/
def accumulate (significand : Nat) : List Nat → Nat × List Nat
  | [] => (significand, [])
  | d :: ds =>
    let next := significand * 10 + d
    if next ≤ significandBound then accumulate next ds else (significand, d :: ds)

/-- Divides by `10 ^ exponent`, in steps that stay within the range of a double. -/
def scaleDown : (fuel : Nat) → Float → (exponent : Nat) → Float
  | 0, x, exponent => x / Float.ofScientific 1 false exponent
  | fuel + 1, x, exponent =>
    if exponent ≤ 308 then x / Float.ofScientific 1 false exponent
    else if x == 0 then x
    else scaleDown fuel (x / 1e308) (exponent - 308)

/-- The double `significand · 10 ^ exponent`, if it is finite. -/
def scale? (significand : Nat) (exponent : Int) : Option Float :=
  let x := (UInt64.ofNat significand).toFloat
  match exponent with
  | .ofNat e =>
    if e ≤ 308 then
      let y := x * Float.ofScientific 1 false e
      if y.isInf then none else some y
    else if significand = 0 then some x
    else none
  | .negSucc e => some (scaleDown (e / 308 + 1) x (e + 1))

/-- The largest exponent that is computed with. -/
def exponentBound : Nat := 2147483647

/-- The double that a literal stands for; a literal beyond the largest double has none. Digits
past the significands bound count by their place before the point and not at all after it. -/
def toFloat? (l : Literal) : Option Float :=
  let whole := accumulate 0 l.whole
  let all := accumulate whole.1 l.fraction
  let significand := all.1
  let point : Int := whole.2.length - (l.fraction.length - all.2.length : Nat)
  let magnitude :=
    match l.exponent with
    | none => scale? significand point
    | some (negative, digits) =>
      let e := ofDigits digits
      if e > exponentBound then
        if significand = 0 || negative then some 0 else none
      else scale? significand (if negative then point - e else point + e)
  magnitude.map fun x => if l.negative then -x else x

end Literal

/-- How decimals are written: with a point for exponents from -5 to 15, whole numbers with `.0`,
and otherwise with one digit before the point and a signed exponent. -/
def decimalText (x : Float) : String :=
  let s := Decimal.shortest x
  let sign := if x.toBits ≥ 0x8000000000000000 then "-" else ""
  let magnitude :=
    if s.exponent < -5 || 15 < s.exponent then
      (match s.digits with
        | [] => []
        | [d] => [d]
        | d :: ds => d :: '.' :: ds) ++
      'e' :: (if s.exponent < 0 then '-' else '+') :: Nat.toDigits 10 s.exponent.natAbs
    else if s.exponent < 0 then
      '0' :: '.' :: (List.replicate (-s.exponent - 1).toNat '0' ++ s.digits)
    else
      let places := s.exponent.toNat + 1
      let whole := s.digits.take places
      let fraction := s.digits.drop places
      whole ++ List.replicate (places - whole.length) '0' ++
        '.' :: (if fraction.isEmpty then ['0'] else fraction)
  sign ++ String.ofList magnitude

/-- A number: an integer of 64 bits, signed or unsigned, or else a double. -/
inductive Number where
  /-- An integer, written without point and exponent. -/
  | integer (n : Int)
  /-- Any other number. -/
  | decimal (x : Float)

/-- The least signed integer of 64 bits. -/
def leastSigned : Int := -9223372036854775808

/-- The greatest signed integer of 64 bits. -/
def greatestSigned : Int := 9223372036854775807

/-- The greatest unsigned integer of 64 bits. -/
def greatestUnsigned : Int := 18446744073709551615

/-- The number that a literal stands for. -/
def Literal.toNumber? (l : Literal) : Option Number :=
  match l.toIntBetween? leastSigned greatestUnsigned with
  | some n => some (.integer n)
  | none => l.toFloat?.map .decimal

/-- The text of a number. -/
def Number.text : Number → String
  | .integer n => Decimal.ofInt n
  | .decimal x => decimalText x

end SpecBundle.Json
