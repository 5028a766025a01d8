import Mathlib.Data.List.Basic
import Mathlib.Tactic.Common
import SpecBundle.Proofs.Text.Bytes
import SpecBundle.Xml.Element

/-!
# Markup

A text is cut into tags at its raw angle brackets. These are never part of what is written as a text
or as the value of an attribute: there they are written as entities, and putting in the characters
that the entities stand for gives back what was written. So no text can add a tag or end one:
tags with plain names are read as they were written, whatever the texts before them and the values
of their attributes are (`read_printMarks`).
-/

namespace SpecBundle.Xml

/-! ## Entities -/

/-- Puts in the characters that the five entities stand for. -/
def unescape : List Char → List Char
  | '&' :: 'l' :: 't' :: ';' :: cs => '<' :: unescape cs
  | '&' :: 'g' :: 't' :: ';' :: cs => '>' :: unescape cs
  | '&' :: 'a' :: 'm' :: 'p' :: ';' :: cs => '&' :: unescape cs
  | '&' :: 'a' :: 'p' :: 'o' :: 's' :: ';' :: cs => '\'' :: unescape cs
  | '&' :: 'q' :: 'u' :: 'o' :: 't' :: ';' :: cs => '"' :: unescape cs
  | c :: cs => c :: unescape cs
  | [] => []

/-- A character that starts no entity stands for itself. -/
theorem unescape_cons {c : Char} (h : c ≠ '&') (cs : List Char) :
    unescape (c :: cs) = c :: unescape cs := by
  rw [unescape] <;> simp [h]

/-- What is written for a character is read as that character. -/
theorem unescape_escapeChar_append (c : Char) (cs : List Char) :
    unescape (escapeChar c ++ cs) = c :: unescape cs := by
  unfold escapeChar
  split
  case h_6 => exact unescape_cons ‹_› cs
  all_goals rfl

/-- What is written for a text is read as that text. -/
theorem unescape_escape (s : String) : unescape (escape s).toList = s.toList := by
  rw [escape, String.toList_ofList]
  induction s.toList with
  | nil => rfl
  | cons c cs ih => rw [List.flatMap_cons, unescape_escapeChar_append, ih]

/-- An escaped text has no angle brackets and no quotation marks. -/
theorem not_mem_escape {c : Char} (h : c ∈ ['<', '>', '"']) (s : String) :
    c ∉ (escape s).toList := by
  rw [escape, String.toList_ofList, List.mem_flatMap]
  rintro ⟨d, -, among⟩
  by_cases markup : d ∈ ['<', '>', '&', '\'', '"']
  · -- An entity is written with letters, an ampersand and a semicolon.
    have apart : ∀ d ∈ ['<', '>', '&', '\'', '"'], ∀ c ∈ ['<', '>', '"'], c ∉ escapeChar d := by
      simp [escapeChar]
    exact apart d markup c h among
  · rw [escapeChar_of_not_mem markup, List.mem_singleton] at among
    subst among
    exact markup (by simp only [List.mem_cons, List.not_mem_nil, or_false] at h ⊢; tauto)

/-! ## Names -/

/-- Whether a character may be part of a name: a letter, a digit or a colon. -/
def isNameChar (c : Char) : Bool :=
  c.isAlphanum || c == ':'

/-- A name is plain if it is not empty and has nothing but letters, digits and colons. -/
structure IsPlain (name : String) : Prop where
  /-- There are characters. -/
  ne_nil : name.toList ≠ []
  /-- All of them may be part of a name. -/
  all_isNameChar : name.toList.all isNameChar = true

/-- A character that may be part of a name is one of ASCII. -/
theorem lt_of_isNameChar {c : Char} (h : isNameChar c = true) : c.toNat < 128 := by
  delta isNameChar Char.isAlphanum Char.isAlpha Char.isUpper Char.isLower Char.isDigit at h
  simp only [Bool.or_eq_true, Bool.and_eq_true, decide_eq_true_eq, beq_iff_eq, ge_iff_le,
    UInt32.le_iff_toNat_le] at h
  change (((65 ≤ c.toNat ∧ c.toNat ≤ 90) ∨ (97 ≤ c.toNat ∧ c.toNat ≤ 122)) ∨
    (48 ≤ c.toNat ∧ c.toNat ≤ 57)) ∨ c = ':' at h
  rcases h with ranges | rfl
  · omega
  · decide

/-- Whether a byte is that of a character that may be part of a name. -/
def isNameByte (b : UInt8) : Bool :=
  isNameChar (Char.ofNat b.toNat)

/-- A character may be part of a name exactly if all of its bytes may. -/
theorem all_isNameByte (c : Char) :
    (String.utf8EncodeChar c).all isNameByte = isNameChar c := by
  by_cases ascii : c.toNat < 128
  · have small : (UInt8.ofNat c.toNat).toNat = c.toNat := by
      rw [UInt8.toNat_ofNat', Nat.mod_eq_of_lt (by omega)]
    rw [Utf8.utf8EncodeChar_of_lt ascii, List.all_cons, List.all_nil, Bool.and_true, isNameByte,
      small, Char.ofNat_toNat]
  · have high : 128 ≤ c.toNat := Nat.le_of_not_lt ascii
    obtain ⟨b, others, bytes⟩ := List.exists_cons_of_ne_nil (String.utf8EncodeChar_ne_nil (c := c))
    have first : 128 ≤ b.toNat :=
      Utf8.le_of_mem_utf8EncodeChar high (bytes ▸ List.mem_cons_self)
    have number : (Char.ofNat b.toNat).toNat = b.toNat := by
      have bound := b.toNat_lt
      exact congrArg Char.toNat (dif_pos (Or.inl (by omega)))
    have other (d : Char) (h : 128 ≤ d.toNat) : isNameChar d = false :=
      Bool.eq_false_iff.2 fun plain => absurd (lt_of_isNameChar plain) (Nat.not_lt.2 h)
    rw [other c high, bytes, List.all_cons, isNameByte, other _ (by rw [number]; exact first),
      Bool.false_and]

/-- A name is plain exactly if its bytes are. -/
theorem isPlain_iff (name : String) :
    IsPlain name ↔
      name.toByteArray.data.toList ≠ [] ∧ name.toByteArray.data.toList.all isNameByte = true := by
  have same : (Utf8.bytesOf name.toList).all isNameByte = name.toList.all isNameChar := by
    rw [Utf8.bytesOf, List.all_flatMap]
    simp only [all_isNameByte]
  rw [← Utf8.bytesOf_toList, ne_eq, Utf8.bytesOf_eq_nil_iff, same]
  exact ⟨fun h => ⟨h.1, h.2⟩, fun h => ⟨h.1, h.2⟩⟩

-- A literal is decided by its bytes: taking them apart into characters takes several times as long.
instance (name : String) : Decidable (IsPlain name) :=
  decidable_of_iff _ (isPlain_iff name).symm

/-- Names that are plain. -/
def ArePlain (names : List String) : Prop :=
  ∀ name ∈ names, IsPlain name

instance (names : List String) : Decidable (ArePlain names) :=
  inferInstanceAs (Decidable (∀ name ∈ names, _))

@[simp] theorem arePlain_nil : ArePlain [] :=
  List.forall_mem_nil _

@[simp] theorem arePlain_cons (name : String) (names : List String) :
    ArePlain (name :: names) ↔ IsPlain name ∧ ArePlain names :=
  List.forall_mem_cons

/-- The characters with a meaning in a tag. -/
def tagMarkup : List Char := ['<', '>', '"', '=', ' ', '/', '?']

/-- A plain name has no markup. -/
theorem IsPlain.not_mem {name : String} (h : IsPlain name) {c : Char} (markup : c ∈ tagMarkup) :
    c ∉ name.toList := by
  have apart : ∀ c ∈ tagMarkup, isNameChar c = false := by
    simp [tagMarkup, isNameChar]
  intro among
  have plain := List.all_eq_true.1 h.all_isNameChar c among
  rw [apart c markup] at plain
  cases plain

/-! ## Tags -/

/-- A tag of a document. -/
inductive Tag where
  /-- The start of an element. -/
  | start (name : String) (attributes : List Attribute)
  /-- The end of an element. -/
  | stop (name : String)
  /-- An element without content. -/
  | empty (name : String) (attributes : List Attribute)
  /-- The line that a document starts with. -/
  | declaration (name : String) (attributes : List Attribute)
  deriving DecidableEq, Repr

namespace Tag

/-- What stands between the angle brackets of a tag. -/
def body : Tag → String
  | .start name attributes => printHead name attributes
  | .stop name => "/" ++ name
  | .empty name attributes => printHead name attributes ++ " /"
  | .declaration name attributes => "?" ++ printHead name attributes ++ "?"

/-- The names in a tag are plain. -/
def HasPlainNames : Tag → Prop
  | .start name attributes => IsPlain name ∧ ArePlain (attributes.map (·.1))
  | .stop name => IsPlain name
  | .empty name attributes => IsPlain name ∧ ArePlain (attributes.map (·.1))
  | .declaration name attributes => IsPlain name ∧ ArePlain (attributes.map (·.1))

end Tag

/-- A tag and the text before it. -/
abbrev Mark := String × Tag

/-- The text of marks one after the other. -/
def printMarks (marks : List Mark) : String :=
  String.join (marks.map fun m => escape m.1 ++ "<" ++ m.2.body ++ ">")

/-! ## Reading -/

/-- The name of an attribute in what stands before its value: a space, the name and `=`. -/
def attributeName? : List Char → Option String
  | ' ' :: cs => (cs.dropSuffix? ['=']).map String.ofList
  | _ => none

/-- The attributes in what stands between quotation marks, where names and values take turns. -/
def attributesOf? : List (List Char) → Option (List Attribute)
  | [[]] => some []
  | name :: value :: rest => do
    let name ← attributeName? name
    let attributes ← attributesOf? rest
    return (name, String.ofList (unescape value)) :: attributes
  | _ => none

/-- The name and the attributes of a tag. -/
def headOf? (cs : List Char) : Option (String × List Attribute) := do
  let attributes ← attributesOf? ((cs.dropWhile (· != ' ')).splitOn '"')
  return (String.ofList (cs.takeWhile (· != ' ')), attributes)

/-- The tag of some body. -/
def Tag.ofBody? : List Char → Option Tag
  | '/' :: name => some (.stop (String.ofList name))
  | '?' :: cs => do
    let inner ← cs.dropSuffix? ['?']
    let head ← headOf? inner
    return .declaration head.1 head.2
  | cs =>
    match cs.dropSuffix? [' ', '/'] with
    | some inner => (headOf? inner).map fun head => .empty head.1 head.2
    | none => (headOf? cs).map fun head => .start head.1 head.2

/-- A tag and the text before it, without the closing bracket. -/
def markOf? (cs : List Char) : Option Mark :=
  match cs.splitOn '<' with
  | [text, body] => (Tag.ofBody? body).map fun tag => (String.ofList (unescape text), tag)
  | _ => none

/-- The tags of a document and the texts before them. It is cut after each closing bracket, and
nothing may follow the last one; each piece must have one opening bracket. -/
def read (document : String) : Option (List Mark) :=
  let pieces := document.toList.splitOn '>'
  if pieces.getLast? = some [] then pieces.dropLast.mapM markOf? else none

/-- What is put at the end can be taken off again. -/
theorem dropSuffix?_append (cs suffix : List Char) :
    (cs ++ suffix).dropSuffix? suffix = some cs :=
  List.dropSuffix?_eq_some_iff.2 ⟨suffix, rfl, BEq.rfl⟩

/-! ### Attributes -/

/-- The text of attributes one after the other. -/
def printAttributes (attributes : List Attribute) : List Char :=
  attributes.flatMap fun a => (printAttribute a).toList

/-- A tag's name stands before its attributes. -/
theorem toList_printHead (name : String) (attributes : List Attribute) :
    (printHead name attributes).toList = name.toList ++ printAttributes attributes := by
  rw [printHead, String.toList_append, String.toList_join, List.flatMap_map]
  rfl

/-- The parts of an attribute, of which the value stands between quotation marks. -/
theorem printAttributes_cons (a : Attribute) (attributes : List Attribute) :
    printAttributes (a :: attributes) = (' ' :: (a.1.toList ++ ['='])) ++
      '"' :: ((escape a.2).toList ++ '"' :: printAttributes attributes) := by
  simp [printAttributes, printAttribute]

/-- Attributes are read as they were written. -/
theorem attributesOf?_printAttributes {attributes : List Attribute}
    (h : ArePlain (attributes.map (·.1))) :
    attributesOf? ((printAttributes attributes).splitOn '"') = some attributes := by
  induction attributes with
  | nil => rfl
  | cons a attributes ih =>
    obtain ⟨plain, others⟩ := (arePlain_cons a.1 _).1 h
    -- The only quotation marks of an attribute are the two around its value.
    have name : '"' ∉ ' ' :: (a.1.toList ++ ['=']) := by
      simp [plain.not_mem (c := '"') (by decide)]
    have value : '"' ∉ (escape a.2).toList := not_mem_escape (by decide) a.2
    rw [printAttributes_cons, List.splitOn_append_cons_self_of_not_mem name,
      List.splitOn_append_cons_self_of_not_mem value, attributesOf?, attributeName?,
      dropSuffix?_append, ih others, unescape_escape]
    simp

/-- The name of a tag ends where its attributes start. -/
theorem headOf?_printHead {name : String} {attributes : List Attribute} (plain : IsPlain name)
    (h : ArePlain (attributes.map (·.1))) :
    headOf? (printHead name attributes).toList = some (name, attributes) := by
  have inName : ∀ c ∈ name.toList, (c != ' ') = true := fun c hc => by
    rw [bne_iff_ne]
    rintro rfl
    exact plain.not_mem (by decide) hc
  have ends : (printAttributes attributes).takeWhile (· != ' ') = [] ∧
      (printAttributes attributes).dropWhile (· != ' ') = printAttributes attributes := by
    cases attributes with
    | nil => exact ⟨rfl, rfl⟩
    | cons a attributes =>
      rw [printAttributes_cons]
      exact ⟨rfl, rfl⟩
  rw [headOf?, toList_printHead, List.takeWhile_append_of_pos inName,
    List.dropWhile_append_of_pos inName, ends.1, ends.2, attributesOf?_printAttributes h]
  simp

/-! ### Tags -/

/-- A head starts with a character of the name, never with markup. -/
theorem exists_printHead_eq_cons {name : String} (plain : IsPlain name)
    (attributes : List Attribute) :
    ∃ c cs, (printHead name attributes).toList = c :: cs ∧ c ≠ '/' ∧ c ≠ '?' := by
  rw [toList_printHead]
  cases hn : name.toList with
  | nil => exact absurd hn plain.ne_nil
  | cons c cs =>
    have among : c ∈ name.toList := hn ▸ .head _
    exact ⟨c, _, rfl, fun e => plain.not_mem (by decide) (e ▸ among),
      fun e => plain.not_mem (by decide) (e ▸ among)⟩

/-- A head ends with a character of the name or with a quotation mark, never with a slash. -/
theorem getLast?_printHead_ne {name : String} (plain : IsPlain name)
    (attributes : List Attribute) :
    (printHead name attributes).toList.getLast? ≠ some '/' := by
  rw [toList_printHead]
  rcases List.eq_nil_or_concat' attributes with rfl | ⟨before, a, rfl⟩
  · rw [printAttributes, List.flatMap_nil, List.append_nil]
    exact fun last => plain.not_mem (by decide) (List.mem_of_getLast? last)
  · have quoted : (printAttribute a).toList =
        (" " ++ a.1 ++ "=\"" ++ escape a.2).toList ++ ['"'] := by
      rw [printAttribute, String.toList_append]
      rfl
    rw [printAttributes, List.flatMap_append, List.flatMap_singleton, quoted,
      ← List.append_assoc, ← List.append_assoc, List.getLast?_concat]
    decide

/-- A body that starts with no markup is that of an element without content if a slash ends it, or
else that of the start of an element. -/
theorem ofBody?_of_head {c : Char} (slash : c ≠ '/') (question : c ≠ '?') (cs : List Char) :
    Tag.ofBody? (c :: cs) =
      match (c :: cs).dropSuffix? [' ', '/'] with
      | some inner => (headOf? inner).map fun head => .empty head.1 head.2
      | none => (headOf? (c :: cs)).map fun head => .start head.1 head.2 := by
  unfold Tag.ofBody?
  split <;> simp_all

/-- A tag with plain names is read as it was written. -/
theorem ofBody?_body {tag : Tag} (h : tag.HasPlainNames) :
    Tag.ofBody? tag.body.toList = some tag := by
  cases tag with
  | stop name => simp [Tag.body, Tag.ofBody?]
  | declaration name attributes =>
    simp [Tag.body, Tag.ofBody?, dropSuffix?_append, headOf?_printHead h.1 h.2]
  | start name attributes =>
    obtain ⟨c, cs, starts, slash, question⟩ := exists_printHead_eq_cons h.1 attributes
    -- Without a slash at its end the body is not that of an element without content.
    have ends : (printHead name attributes).toList.dropSuffix? [' ', '/'] = none := by
      rw [Option.eq_none_iff_forall_ne_some]
      intro inner closed
      obtain ⟨suffix, ends, same⟩ := List.dropSuffix?_eq_some_iff.1 closed
      rw [eq_of_beq same] at ends
      exact getLast?_printHead_ne h.1 attributes (by rw [ends, List.getLast?_append]; rfl)
    have read := headOf?_printHead h.1 h.2
    rw [starts] at ends read
    rw [Tag.body, starts, ofBody?_of_head slash question, ends]
    simp [read]
  | empty name attributes =>
    obtain ⟨c, cs, starts, slash, question⟩ := exists_printHead_eq_cons h.1 attributes
    have closed : (printHead name attributes ++ " /").toList = c :: (cs ++ [' ', '/']) := by
      rw [String.toList_append, starts]
      rfl
    have read := headOf?_printHead h.1 h.2
    rw [starts] at read
    rw [Tag.body, closed, ofBody?_of_head slash question, ← List.cons_append, dropSuffix?_append]
    simp [read]

/-- Angle brackets are markup, and the other characters that are put around names are not angle
brackets. -/
theorem bracket_mem_and_not_mem :
    ∀ c ∈ ['<', '>'], c ∈ tagMarkup ∧ c ∈ ['<', '>', '"'] ∧ c ∉ [' ', '=', '"', '/', '?'] := by
  simp [tagMarkup]

/-- There are no angle brackets in attributes. -/
theorem not_mem_printAttributes {attributes : List Attribute}
    (h : ArePlain (attributes.map (·.1))) {c : Char} (bracket : c ∈ ['<', '>']) :
    c ∉ printAttributes attributes := by
  obtain ⟨markup, escaped, others⟩ := bracket_mem_and_not_mem c bracket
  induction attributes with
  | nil => exact List.not_mem_nil
  | cons a attributes ih =>
    obtain ⟨plain, rest⟩ := (arePlain_cons a.1 _).1 h
    have name := plain.not_mem markup
    have value := not_mem_escape escaped a.2
    have after := ih rest
    simp only [List.mem_cons, List.not_mem_nil, or_false, not_or] at others
    simp [printAttributes_cons, name, value, after, others]

/-- There are no angle brackets in a tag but those around it. -/
theorem Tag.HasPlainNames.not_mem_body {tag : Tag} (h : tag.HasPlainNames) {c : Char}
    (bracket : c ∈ ['<', '>']) : c ∉ tag.body.toList := by
  obtain ⟨markup, -, others⟩ := bracket_mem_and_not_mem c bracket
  have head : ∀ name (attributes : List Attribute), IsPlain name →
      ArePlain (attributes.map (·.1)) → c ∉ (printHead name attributes).toList :=
    fun name attributes plain others => by
      rw [toList_printHead, List.mem_append, not_or]
      exact ⟨plain.not_mem markup, not_mem_printAttributes others bracket⟩
  simp only [List.mem_cons, List.not_mem_nil, or_false, not_or] at others
  cases tag with
  | start name attributes => exact head name attributes h.1 h.2
  | stop name => simp [Tag.body, IsPlain.not_mem h markup, others]
  | empty name attributes => simp [Tag.body, head name attributes h.1 h.2, others]
  | declaration name attributes => simp [Tag.body, head name attributes h.1 h.2, others]

/-! ### Marks -/

/-- What stands before the closing bracket of a mark. -/
def piece (m : Mark) : List Char :=
  (escape m.1).toList ++ '<' :: m.2.body.toList

/-- A piece is read as the mark that it is a piece of. -/
theorem markOf?_piece {m : Mark} (h : m.2.HasPlainNames) : markOf? (piece m) = some m := by
  have cut : (piece m).splitOn '<' = [(escape m.1).toList, m.2.body.toList] := by
    rw [piece, List.splitOn_append_cons_self_of_not_mem (not_mem_escape (by decide) m.1),
      List.splitOn_eq_singleton (h.not_mem_body (by decide))]
  rw [markOf?, cut]
  simp [ofBody?_body h, unescape_escape]

/-- Cutting the text of marks at closing brackets gives their pieces. -/
theorem splitOn_printMarks {marks : List Mark} (h : ∀ m ∈ marks, m.2.HasPlainNames) :
    (printMarks marks).toList.splitOn '>' = marks.map piece ++ [[]] := by
  induction marks with
  | nil => rfl
  | cons m marks ih =>
    have printed : (printMarks (m :: marks)).toList =
        piece m ++ '>' :: (printMarks marks).toList := by
      simp [printMarks, piece]
    have none : '>' ∉ piece m := by
      simp [piece, not_mem_escape (c := '>') (by decide), (h m (.head _)).not_mem_body]
    rw [printed, List.splitOn_append_cons_self_of_not_mem none, ih fun n hn => h n (.tail _ hn)]
    rfl

/-- The text of marks is read as those marks. -/
theorem read_printMarks {marks : List Mark} (h : ∀ m ∈ marks, m.2.HasPlainNames) :
    read (printMarks marks) = some marks := by
  have each : (marks.map piece).mapM markOf? = some marks := by
    rw [List.mapM_map]
    induction marks with
    | nil => rfl
    | cons m marks ih =>
      rw [List.mapM_cons, ih fun n hn => h n (.tail _ hn), Function.comp_apply,
        markOf?_piece (h m (.head _))]
      rfl
  rw [read, splitOn_printMarks h]
  simp only [List.getLast?_concat, List.dropLast_concat, if_true, each]

example : read "<a b=\"1 &lt; 2\">x &amp; y<c /></a>" =
    some [("", .start "a" [("b", "1 < 2")]), ("x & y", .empty "c" []), ("", .stop "a")] := by
  decide +kernel

example : read "<a>x > y</a>" = none := by
  decide +kernel

end SpecBundle.Xml
