import SpecBundle.Text.CaseTable
import SpecBundle.Text.Ranges

/-!
# Lowercase text

`lowercase` is the full Unicode lowercasing of a text: each character by its own mapping, the
dotted capital I by two characters, and the capital sigma by its place in the word. `foldAscii`
folds the letters `A` to `Z` only and is what names are compared by where case is ignored.
-/

namespace SpecBundle.Text

/-- Whether the nearest character that is not skipped is a cased letter. -/
def startsCased : List Char → Bool
  | [] => false
  | c :: rest =>
    if inRanges caseIgnorableRanges c then startsCased rest else inRanges casedRanges c

/-- The lowercase form of a character regardless of its neighbours. -/
def lowerChar (c : Char) : List Char :=
  if c.toNat < 128 then [c.toLower]
  else if c = 'İ' then ['i', '\u0307']
  else
    match lowercaseRuns.find? (·.covers c.toNat) with
    | some run => [Char.ofNat (c.toNat + run.offset).toNat]
    | none => [c]

/-- The lowercase form of `c` between the characters `before`, nearest first, and `after`: a
capital sigma that ends a word takes its final form. -/
def lowerAt (before : List Char) (c : Char) (after : List Char) : List Char :=
  if c = 'Σ' then
    if startsCased before && !startsCased after then ['ς'] else ['σ']
  else lowerChar c

/-- The lowercase form of the characters that follow `before`, which is nearest first. -/
def lowerAfter (before : List Char) : List Char → List Char
  | [] => []
  | c :: rest => lowerAt before c rest ++ lowerAfter (c :: before) rest

/-- The lowercase form of a text. -/
def lowercase (s : String) : String :=
  String.ofList (lowerAfter [] s.toList)

/-- The text with `A` to `Z` in lowercase and all else as it is. -/
def foldAscii (s : String) : List Char :=
  s.toList.map Char.toLower

/-- Whether two texts differ in the case of ASCII letters at most. -/
def equalsIgnoringCase (s t : String) : Bool :=
  foldAscii s == foldAscii t

end SpecBundle.Text
