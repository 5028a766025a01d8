/-!
# XML documents

A document is a tree of elements. Text stands only in elements that hold nothing else, so the
printer may put every other element on a line of its own. `Element.print` prints an element and
`document` a whole document.
-/

namespace SpecBundle.Xml

/-- An attribute: its name and its value. -/
abbrev Attribute := String × String

/-- An element of a document. -/
inductive Element where
  /-- An element without content. -/
  | empty (tag : String) (attributes : List Attribute)
  /-- An element that holds a text, which may be empty. -/
  | text (tag : String) (attributes : List Attribute) (content : String)
  /-- An element that holds elements, perhaps none. -/
  | parent (tag : String) (attributes : List Attribute) (children : List Element)

/-- What stands for a character in a text or an attribute value. -/
def escapeChar : Char → List Char
  | '<' => ['&', 'l', 't', ';']
  | '>' => ['&', 'g', 't', ';']
  | '&' => ['&', 'a', 'm', 'p', ';']
  | '\'' => ['&', 'a', 'p', 'o', 's', ';']
  | '"' => ['&', 'q', 'u', 'o', 't', ';']
  | c => [c]

/-- A text with the five markup characters escaped. -/
def escape (s : String) : String :=
  String.ofList (s.toList.flatMap escapeChar)

/-- A character that is no markup stands for itself. -/
theorem escapeChar_of_not_mem {c : Char} (h : c ∉ ['<', '>', '&', '\'', '"']) :
    escapeChar c = [c] := by
  unfold escapeChar
  split <;> simp_all

/-- An attribute after a space. -/
def printAttribute (a : Attribute) : String :=
  " " ++ a.1 ++ "=\"" ++ escape a.2 ++ "\""

/-- The tag and the attributes. -/
def printHead (tag : String) (attributes : List Attribute) : String :=
  tag ++ String.join (attributes.map printAttribute)

/-- A new line, set in by two spaces for each enclosing element. -/
def newLine (depth : Nat) : String :=
  String.ofList ('\n' :: List.replicate (2 * depth) ' ')

mutual

/-- The text of an element inside `depth` others, from the end of the line before it. -/
def Element.print (depth : Nat) : Element → String
  | .empty tag attributes => newLine depth ++ "<" ++ printHead tag attributes ++ " />"
  | .text tag attributes content =>
    newLine depth ++ "<" ++ printHead tag attributes ++ ">" ++ escape content ++ "</" ++ tag ++ ">"
  | .parent tag attributes children =>
    newLine depth ++ "<" ++ printHead tag attributes ++ ">" ++ printAll (depth + 1) children ++
      newLine depth ++ "</" ++ tag ++ ">"

/-- The texts of elements one after the other. -/
def printAll (depth : Nat) : List Element → String
  | [] => ""
  | e :: rest => e.print depth ++ printAll depth rest

end

/-- The line that every document starts with. -/
def declaration : String :=
  "<?xml version=\"1.0\" encoding=\"utf-8\"?>"

/-- The text of the document with the given root. -/
def document (root : Element) : String :=
  declaration ++ root.print 0

/-- An element with a tag, a text and no attributes. -/
def leaf (tag content : String) : Element :=
  .text tag [] content

/-- The digit for a flag. -/
def flagText (b : Bool) : String :=
  if b then "1" else "0"

/-- An element that holds a flag. -/
def flag (tag : String) (b : Bool) : Element :=
  leaf tag (flagText b)

/-- Elements that hold a text each, by their tags. -/
def leaves (pairs : List (String × String)) : List Element :=
  pairs.map fun p => leaf p.1 p.2

/-- An element that holds others and has no attributes. -/
def group (tag : String) (children : List Element) : Element :=
  .parent tag [] children

/-- A text in one language, inside a container. -/
def localized (container item description language : String) : Element :=
  group container [.empty item [("description", description), ("languagecode", language)]]

/-- The label of something in one language. -/
def labels (description language : String) : Element :=
  localized "labels" "label" description language

/-- The displayed name of something in one language. -/
def localizedNames (description language : String) : Element :=
  localized "LocalizedNames" "LocalizedName" description language

/-- The description of something in one language. -/
def descriptions (description language : String) : Element :=
  localized "Descriptions" "Description" description language

end SpecBundle.Xml
