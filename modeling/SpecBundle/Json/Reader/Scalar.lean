import SpecBundle.Json.Reader.Basic

/-!
# Reading strings and numbers

A string that is kept has to denote a text, so surrogates must come in pairs. Of a number that is
kept the value counts, so it must not be beyond the largest double. Strings and numbers of which
nothing is kept only have to follow the grammar.
-/

namespace SpecBundle.Json.Reader

/-! ## Numbers -/

/-- Reads digits, of which there must be one at least; a text that ends before has the given
fault. -/
def digits (atEnd : FaultCause) : Reader (List Nat) := do
  match ← peek? with
  | none => failAhead atEnd
  | some c =>
    if c.isDigit then return (← eatWhile (·.isDigit)).map fun d => d.toNat - 48
    else failAhead .badNumber

/-- Reads the digits before the point: a zero stands alone. -/
def wholeDigits (atEnd : FaultCause) : Reader (List Nat) := do
  if ← eatIf (· == '0') then
    if (← peek?).any (·.isDigit) then failAhead .badNumber else return [0]
  else digits atEnd

/-- Reads the sign and the digits of an exponent. -/
def exponent (atEnd : FaultCause) : Reader (Bool × List Nat) := do
  let minus ← eatIf (· == '-')
  if !minus then
    let _ ← eatIf (· == '+')
  return (minus, ← digits atEnd)

/-- Reads a number literal; a text that ends within it has the given fault. -/
def literal (atEnd : FaultCause) : Reader Literal := do
  let negative ← eatIf (· == '-')
  let whole ← wholeDigits atEnd
  let fraction ← if ← eatIf (· == '.') then digits atEnd else pure []
  let exponent ←
    if ← eatIf fun c => c == 'e' || c == 'E' then some <$> exponent atEnd else pure none
  return ⟨negative, whole, fraction, exponent⟩

/-- The number of digits behind the one that takes an exponent out of bounds. -/
def digitsBeyond (exponent : Nat) : List Nat → Nat
  | [] => 0
  | d :: ds =>
    let next := exponent * 10 + d
    if next ≤ Literal.exponentBound then digitsBeyond next ds else ds.length

/-- Fails at a number that is too large: where its exponent leaves the bounds, or else at its
end. -/
def tooLarge (l : Literal) : Reader α := fun c =>
  let beyond := digitsBeyond 0 ((l.exponent.map (·.2)).getD [])
  .error ⟨.numberTooLarge, ⟨c.position.line, c.position.column - beyond⟩⟩

/-- Reads a number that is kept. -/
def number : Reader Number := do
  let l ← literal .endOfValue
  match l.toNumber? with
  | some n => return n
  | none => tooLarge l

/-! ## Strings -/

/-- Reads the four hexadecimal digits of an escaped unit. They are four bytes whatever they hold,
and nothing less than the end of the text makes them fewer. -/
def codeUnit : Reader Nat := fun c =>
  let place := c.position.afterBytes 4 c.rest
  match c.rest with
  | x :: y :: z :: w :: rest =>
    match hexQuad? x y z w with
    | some n => .ok (n, { c with rest := rest, position := place })
    | none => .error ⟨.badEscape, place⟩
  | few => .error ⟨if (String.ofList few).utf8ByteSize < 4 then .endOfText else .badEscape, place⟩

/-- Reads a character that the second half of a surrogate pair needs before it. -/
def pairMark (mark : Char) : Reader Unit := do
  match ← peek? with
  | none => fail .endOfText
  | some c => if c = mark then eat else failAhead .unfinishedPair

/-- Reads the units of an escaped character behind the `u`. -/
def escapedCodePoint : Reader Char := do
  let n ← codeUnit
  if endsPair n then fail .loneSurrogate
  else if startsPair n then
    pairMark '\\'
    pairMark 'u'
    let m ← codeUnit
    if endsPair m then return ofPair n m else fail .loneSurrogate
  else return Char.ofNat n

/-- Reads an escape behind its backslash; `codePoint` reads what follows a `u`. -/
def escape (codePoint : Reader α) (ofChar : Char → α) : Reader α := do
  match ← peek? with
  | none => fail .endOfText
  | some c =>
    if c = 'u' then
      eat
      codePoint
    else
      match simpleEscape? c with
      | none => failAhead .badEscape
      | some x =>
        eat
        return ofChar x

/-- Reads the rest of a string that is kept, with what is read of it, latest first. Each character
takes one unit of fuel, so the text has ended when there is none. -/
def textFrom : (fuel : Nat) → (read : List Char) → Reader String
  | 0, _ => fail .endOfText
  | fuel + 1, read => do
    match ← peek? with
    | none => fail .endOfText
    | some c =>
      if c.toNat < 0x20 then failAhead .controlCharacter
      else
        eat
        if c = '"' then return String.ofList read.reverse
        else if c = '\\' then textFrom fuel ((← escape escapedCodePoint id) :: read)
        else textFrom fuel (c :: read)

/-- Reads a string that is kept, from its first quote. -/
def text : Reader String := do
  eat
  textFrom (← bound) []

/-- Reads past the rest of a string of which nothing is kept. -/
def skipTextFrom : (fuel : Nat) → Reader Unit
  | 0 => fail .endOfText
  | fuel + 1 => do
    match ← peek? with
    | none => fail .endOfText
    | some c =>
      if c.toNat < 0x20 then fail .controlCharacter
      else
        eat
        if c = '"' then return
        else if c = '\\' then
          escape (discard codeUnit) fun _ => ()
          skipTextFrom fuel
        else skipTextFrom fuel

/-- Reads past a string of which nothing is kept, from its first quote. -/
def skipText : Reader Unit := do
  eat
  skipTextFrom (← bound)

end SpecBundle.Json.Reader
