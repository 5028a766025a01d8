import SpecBundle.Text.Ranges
import SpecBundle.Text.Unprintable

/-!
# Quoted text

`quoted` writes a text between quotes for a message to a person. Quotes, backslashes and the usual
control characters have escapes of one letter, and everything else that could not be made out is
written by its code point.
-/

namespace SpecBundle.Text

/-- A character by its code point in hexadecimal digits. -/
def codePointEscape (c : Char) : List Char :=
  '\\' :: 'u' :: '\x7b' :: Nat.toDigits 16 c.toNat ++ ['\x7d']

/-- A character as it stands between quotes. -/
def quotedChar : Char → List Char
  | '\x00' => ['\\', '0']
  | '\t' => ['\\', 't']
  | '\n' => ['\\', 'n']
  | '\r' => ['\\', 'r']
  | '"' => ['\\', '"']
  | '\\' => ['\\', '\\']
  | c => if inRanges unprintableRanges c then codePointEscape c else [c]

/-- A text between quotes. -/
def quoted (s : String) : String :=
  String.ofList ('"' :: s.toList.flatMap quotedChar ++ ['"'])

end SpecBundle.Text
