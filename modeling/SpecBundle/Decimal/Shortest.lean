/-!
# The shortest decimal of a double

A finite double stands for every real number that rounds to it. `shortest` finds the decimal of
fewest digits among them, and of those the nearest to the double itself, in exact arithmetic on
the double's significand and exponent: for each number of digits in turn it tests the two
neighbours of the value on that decimal grid.
-/

namespace SpecBundle.Decimal

/-- The value `mantissa · 2 ^ exponent` of a finite double, without its sign. -/
structure Binary where
  /-- The significand as an integer. -/
  mantissa : Nat
  /-- The power of two that scales it. -/
  exponent : Int
  /-- Whether the gap to the next smaller double is half the gap to the next larger one. -/
  narrowBelow : Bool

/-- The magnitude of a double, read off its bits. -/
def Binary.ofFloat (x : Float) : Binary :=
  let bits : Nat := x.toBits.toNat
  let exponentBits : Nat := bits / Nat.pow 2 52 % Nat.pow 2 11
  let fraction : Nat := bits % Nat.pow 2 52
  if exponentBits = 0 then ⟨fraction, -1074, false⟩
  else ⟨Nat.pow 2 52 + fraction, (exponentBits : Int) - 1075, fraction == 0 && exponentBits != 1⟩

/-- The digits `d₁ d₂ ... dₙ` and the exponent of the decimal `d₁.d₂...dₙ · 10 ^ exponent`. -/
structure Scientific where
  /-- The digits, the first of them nonzero unless the number is zero. -/
  digits : List Char
  /-- The power of ten that the first digit counts. -/
  exponent : Int

/-- A positive number as a quotient of natural numbers, with the half gaps to its neighbours over
the same divisor. -/
structure Interval where
  /-- The number, times `divisor`. -/
  value : Nat
  /-- The distance down to the nearest number that still rounds to it, times `divisor`. -/
  below : Nat
  /-- The distance up to the furthest number that still rounds to it, times `divisor`. -/
  above : Nat
  /-- What the three are divided by. -/
  divisor : Nat
  /-- Whether the two end points round to the number themselves. -/
  closed : Bool

/-- The reals that round to a double. -/
def Binary.interval (b : Binary) : Interval :=
  let up := Nat.pow 2 (b.exponent - 2).toNat
  let down := Nat.pow 2 (2 - b.exponent).toNat
  ⟨4 * b.mantissa * up, (if b.narrowBelow then 1 else 2) * up, 2 * up, down, b.mantissa % 2 == 0⟩

/-- The interval in units of `10 ^ k`. -/
def Interval.inUnitsOf (i : Interval) (k : Int) : Interval :=
  let up := Nat.pow 10 (-k).toNat
  ⟨i.value * up, i.below * up, i.above * up, i.divisor * Nat.pow 10 k.toNat, i.closed⟩

/-- Whether the integer `n` lies in the interval. -/
def Interval.holds (i : Interval) (n : Nat) : Bool :=
  let point := n * i.divisor
  if i.closed then i.value ≤ point + i.below && point ≤ i.value + i.above
  else i.value < point + i.below && point < i.value + i.above

/-- The integer of the interval that is nearest to the number, the even one of two equally near,
if a neighbour of the number lies in the interval. -/
def Interval.nearest? (i : Interval) : Option Nat :=
  let low := i.value / i.divisor
  let rest := i.value % i.divisor
  let lowFits := low != 0 && i.holds low
  let highFits := i.holds (low + 1)
  if lowFits && highFits then
    if 2 * rest < i.divisor then some low
    else if i.divisor < 2 * rest then some (low + 1)
    else some (if low % 2 == 0 then low else low + 1)
  else if lowFits then some low
  else if highFits then some (low + 1)
  else none

/-- The power of ten of a positive number's first digit. -/
def Interval.magnitude (i : Interval) : Int :=
  ((Nat.toDigits 10 (i.value * Nat.pow 10 400 / i.divisor)).length : Int) - 401

/-- The first hit on the grids of `n`, `n + 1`, ... digits, at most `tries` of them, for a number
of the given magnitude. -/
def Interval.search (i : Interval) (magnitude : Int) : (tries n : Nat) → Scientific
  | 0, _ => ⟨['0'], 0⟩
  | tries + 1, n =>
    match (i.inUnitsOf (magnitude - n + 1)).nearest? with
    | some hit =>
      let digits := Nat.toDigits 10 hit
      ⟨digits, magnitude + (digits.length - n : Int)⟩
    | none => i.search magnitude tries (n + 1)

/-- Without the zeros at its end, but with its first digit. -/
def Scientific.trim (s : Scientific) : Scientific :=
  match s.digits with
  | [] => s
  | d :: ds => { s with digits := d :: (ds.reverse.dropWhile (· == '0')).reverse }

/-- The shortest decimal that reads back as the magnitude of a finite double. -/
def shortest (x : Float) : Scientific :=
  let b := Binary.ofFloat x
  if b.mantissa = 0 then ⟨['0'], 0⟩
  else (b.interval.search b.interval.magnitude 17 1).trim

end SpecBundle.Decimal
