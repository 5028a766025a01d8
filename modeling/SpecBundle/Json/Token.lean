import SpecBundle.Json.Value

/-!
# Tokens of JSON text

`Token.scan` cuts a text into punctuation, string literals and words in one pass, a step for each
character. A word is whatever stands between punctuation, quotes and blanks; it has to be a
number literal or one of the three names.
-/

namespace SpecBundle.Json

/-- A token of JSON text. -/
inductive Token where
  /-- An opening brace. -/
  | openBrace
  /-- A closing brace. -/
  | closeBrace
  /-- An opening bracket. -/
  | openBracket
  /-- A closing bracket. -/
  | closeBracket
  /-- A comma. -/
  | comma
  /-- A colon. -/
  | colon
  /-- A string literal, with the text that it denotes, if it denotes one. -/
  | text (content : Option String)
  /-- A number literal. -/
  | number (literal : Literal)
  /-- `true` or `false`. -/
  | bool (b : Bool)
  /-- The name `null`. -/
  | null

/-- The value of a hexadecimal digit. -/
def hexValue? (c : Char) : Option Nat :=
  if c.isDigit then some (c.toNat - 48)
  else if 'a' ≤ c && c ≤ 'f' then some (c.toNat - 87)
  else if 'A' ≤ c && c ≤ 'F' then some (c.toNat - 55)
  else none

/-- The number of four hexadecimal digits. -/
def hexQuad? (a b c d : Char) : Option Nat := do
  return (((← hexValue? a) * 16 + (← hexValue? b)) * 16 + (← hexValue? c)) * 16 + (← hexValue? d)

/-- The character that a one-letter escape stands for. -/
def simpleEscape? : Char → Option Char
  | '"' => some '"'
  | '\\' => some '\\'
  | '/' => some '/'
  | 'b' => some '\x08'
  | 'f' => some '\x0c'
  | 'n' => some '\n'
  | 'r' => some '\r'
  | 't' => some '\t'
  | _ => none

/-- What a string literal is made of: characters, and 16-bit units where it escapes them. -/
inductive Piece where
  /-- A character that stands for itself or has a one-letter escape. -/
  | char (c : Char)
  /-- An escaped unit. -/
  | codeUnit (n : Nat)

/-- The pieces between the quotes of a string literal; none if an escape is malformed or a
control character is written raw. -/
def pieces? : List Char → Option (List Piece)
  | [] => some []
  | '\\' :: 'u' :: a :: b :: c :: d :: rest => do
    let n ← hexQuad? a b c d
    return .codeUnit n :: (← pieces? rest)
  | '\\' :: c :: rest => do
    let c ← simpleEscape? c
    return .char c :: (← pieces? rest)
  | c :: rest =>
    if c == '\\' || c.toNat < 0x20 then none else (pieces? rest).map (.char c :: ·)

/-- Whether a unit is the first half of a surrogate pair. -/
def startsPair (n : Nat) : Bool :=
  0xD800 ≤ n && n < 0xDC00

/-- Whether a unit is the second half of a surrogate pair. -/
def endsPair (n : Nat) : Bool :=
  0xDC00 ≤ n && n < 0xE000

/-- The character of a surrogate pair. -/
def ofPair (n m : Nat) : Char :=
  Char.ofNat (0x10000 + (n - 0xD800) * 0x400 + (m - 0xDC00))

/-- The text of the pieces; none if half of a surrogate pair stands alone. -/
def textOf? : List Piece → Option (List Char)
  | [] => some []
  | .char c :: rest => (textOf? rest).map (c :: ·)
  | .codeUnit n :: .codeUnit m :: rest =>
    if startsPair n then
      if endsPair m then (textOf? rest).map (ofPair n m :: ·) else none
    else if endsPair n then none
    else (textOf? (.codeUnit m :: rest)).map (Char.ofNat n :: ·)
  | .codeUnit n :: rest =>
    if startsPair n || endsPair n then none else (textOf? rest).map (Char.ofNat n :: ·)

/-- What a scan is in the middle of; characters are held latest first. -/
inductive Scan where
  /-- Between tokens. -/
  | between
  /-- In a word. -/
  | word (read : List Char)
  /-- In a string literal. -/
  | literal (read : List Char)
  /-- In a string literal, just after a backslash. -/
  | escape (read : List Char)

namespace Token

/-- The token of a word. -/
def ofWord? (word : List Char) : Option Token :=
  if word = ['n', 'u', 'l', 'l'] then some .null
  else if word = ['t', 'r', 'u', 'e'] then some (.bool true)
  else if word = ['f', 'a', 'l', 's', 'e'] then some (.bool false)
  else (Literal.ofChars? word).map .number

/-- The token of what stands between two quotes. -/
def ofLiteral? (content : List Char) : Option Token :=
  (pieces? content).map fun pieces => .text ((textOf? pieces).map String.ofList)

/-- The token of a punctuation character. -/
def punctuation? : Char → Option Token
  | '\x7b' => some .openBrace
  | '\x7d' => some .closeBrace
  | '[' => some .openBracket
  | ']' => some .closeBracket
  | ',' => some .comma
  | ':' => some .colon
  | _ => none

/-- Blanks are the space, the tab, the line feed and the carriage return. -/
def isBlank (c : Char) : Bool :=
  c == ' ' || c == '\t' || c == '\n' || c == '\r'

/-- One character of a scan outside string literals, with the tokens so far, latest first. -/
def start (tokens : List Token) (c : Char) : Scan × List Token :=
  if isBlank c then (.between, tokens)
  else if c == '"' then (.literal [], tokens)
  else
    match punctuation? c with
    | some token => (.between, token :: tokens)
    | none => (.word [c], tokens)

/-- One character of a scan. -/
def step : Scan × List Token → Char → Option (Scan × List Token)
  | (.between, tokens), c => some (start tokens c)
  | (.word read, tokens), c =>
    if isBlank c || c == '"' || (punctuation? c).isSome then
      (ofWord? read.reverse).map fun token => start (token :: tokens) c
    else some (.word (c :: read), tokens)
  | (.literal read, tokens), c =>
    if c == '"' then (ofLiteral? read.reverse).map fun token => (.between, token :: tokens)
    else if c == '\\' then some (.escape (c :: read), tokens)
    else some (.literal (c :: read), tokens)
  | (.escape read, tokens), c => some (.literal (c :: read), tokens)

/-- The tokens at the end of a text, latest first. -/
def finish : Scan × List Token → Option (List Token)
  | (.between, tokens) => some tokens
  | (.word read, tokens) => (ofWord? read.reverse).map (· :: tokens)
  | (.literal _, _) => none
  | (.escape _, _) => none

/-- The tokens of a text. -/
def scan (text : String) : Option (List Token) := do
  return (← finish (← text.toList.foldlM step (.between, []))).reverse

end Token

end SpecBundle.Json
