import SpecBundle.Proofs.Xml.Markup

/-!
# The tags of documents

A document is a text of marks (`Element.print_eq`): the tags of its elements, each after the text
that a text element holds or after the end of a line and the indentation. The tags nest properly,
and `isDocumentOf_document` says that they and the texts are what is read from the document if all
names in it are plain.
-/

namespace SpecBundle.Xml

/-! ## Marks of elements -/

mutual

/-- The tags of an element inside `depth` others, each with the text before it: what a text element
holds, and else the end of the line and the indentation. -/
def Element.marks (depth : Nat) : Element → List Mark
  | .empty tag attributes => [(newLine depth, .empty tag attributes)]
  | .text tag attributes content =>
    [(newLine depth, .start tag attributes), (content, .stop tag)]
  | .parent tag attributes children =>
    (newLine depth, .start tag attributes) ::
      (marksAll (depth + 1) children ++ [(newLine depth, .stop tag)])

/-- The tags of elements one after the other, each with the text before it. -/
def marksAll (depth : Nat) : List Element → List Mark
  | [] => []
  | e :: rest => e.marks depth ++ marksAll depth rest

end

/-- The text of marks is that of each by itself. -/
theorem printMarks_append (marks marks' : List Mark) :
    printMarks (marks ++ marks') = printMarks marks ++ printMarks marks' := by
  rw [printMarks, List.map_append, String.join_append]
  rfl

/-- Nothing is escaped in the end of a line and the indentation. -/
theorem escape_newLine (depth : Nat) : escape (newLine depth) = newLine depth := by
  have same : ∀ c ∈ '\n' :: List.replicate (2 * depth) ' ', escapeChar c = [c] := by
    simp [List.mem_replicate, escapeChar]
  rw [escape, newLine, String.toList_ofList, List.flatMap_congr same, List.flatMap_singleton']

/-- What ends an element starts with two characters. -/
theorem bracket_append_slash_append (s : String) : "<" ++ ("/" ++ s) = "</" ++ s := by
  rw [← String.append_assoc]
  rfl

mutual

/-- The text of an element is that of its marks. -/
theorem Element.print_eq (depth : Nat) :
    (e : Element) → e.print depth = printMarks (e.marks depth)
  | .empty tag attributes => by
    simp [Element.print, Element.marks, printMarks, Tag.body, escape_newLine, String.append_assoc]
  | .text tag attributes content => by
    simp [Element.print, Element.marks, printMarks, Tag.body, escape_newLine, String.append_assoc,
      bracket_append_slash_append]
  | .parent tag attributes children => by
    rw [Element.print, Element.marks, ← List.singleton_append, printMarks_append,
      printMarks_append, printAll_eq (depth + 1) children]
    simp [printMarks, Tag.body, escape_newLine, String.append_assoc, bracket_append_slash_append]

/-- The text of elements one after the other is that of their marks. -/
theorem printAll_eq (depth : Nat) :
    (es : List Element) → printAll depth es = printMarks (marksAll depth es)
  | [] => by rw [printAll, marksAll, printMarks, List.map_nil, String.join_nil]
  | e :: rest => by
    rw [printAll, marksAll, printMarks_append, e.print_eq depth, printAll_eq depth rest]

end

/-! ### Tags of elements -/

mutual

/-- The tags of an element and the elements in it, in order. -/
def Element.tags : Element → List Tag
  | .empty tag attributes => [.empty tag attributes]
  | .text tag attributes _ => [.start tag attributes, .stop tag]
  | .parent tag attributes children => .start tag attributes :: (tagsAll children ++ [.stop tag])

/-- The tags of elements one after the other. -/
def tagsAll : List Element → List Tag
  | [] => []
  | e :: rest => e.tags ++ tagsAll rest

end

mutual

/-- The tags of an element do not depend on where it stands. -/
theorem Element.map_snd_marks (depth : Nat) : (e : Element) → (e.marks depth).map (·.2) = e.tags
  | .empty tag attributes => by rw [Element.marks, Element.tags]; rfl
  | .text tag attributes content => by rw [Element.marks, Element.tags]; rfl
  | .parent tag attributes children => by
    rw [Element.marks, Element.tags, List.map_cons, List.map_append,
      map_snd_marksAll (depth + 1) children]
    rfl

/-- The tags of elements one after the other do not depend on where they stand. -/
theorem map_snd_marksAll (depth : Nat) :
    (es : List Element) → (marksAll depth es).map (·.2) = tagsAll es
  | [] => by rw [marksAll, tagsAll]; rfl
  | e :: rest => by
    rw [marksAll, tagsAll, List.map_append, e.map_snd_marks depth, map_snd_marksAll depth rest]

end

/-- Tags that nest properly: each start has an end of the same name, and what stands between the two
nests properly. -/
inductive Nested : List Tag → Prop where
  /-- There are no tags. -/
  | nil : Nested []
  /-- An element without content comes first. -/
  | empty {name : String} {attributes : List Attribute} {rest : List Tag} (after : Nested rest) :
    Nested (.empty name attributes :: rest)
  /-- An element with content comes first. -/
  | element {name : String} {attributes : List Attribute} {inner rest : List Tag}
    (inside : Nested inner) (after : Nested rest) :
    Nested (.start name attributes :: (inner ++ .stop name :: rest))

/-- Tags that nest properly do so one after the other. -/
theorem Nested.append {tags tags' : List Tag} (h : Nested tags) (h' : Nested tags') :
    Nested (tags ++ tags') := by
  induction h with
  | nil => exact h'
  | empty _ ih => exact .empty ih
  | element inside _ _ ih =>
    rw [List.cons_append, List.append_assoc, List.cons_append]
    exact .element inside ih

mutual

/-- The tags of an element nest properly. -/
theorem Element.nested_tags : (e : Element) → Nested e.tags
  | .empty tag attributes => by
    rw [Element.tags]
    exact .empty .nil
  | .text tag attributes content => by
    rw [Element.tags]
    exact .element .nil .nil
  | .parent tag attributes children => by
    rw [Element.tags]
    exact .element (nested_tagsAll children) .nil

/-- The tags of elements one after the other nest properly. -/
theorem nested_tagsAll : (es : List Element) → Nested (tagsAll es)
  | [] => by
    rw [tagsAll]
    exact .nil
  | e :: rest => by
    rw [tagsAll]
    exact e.nested_tags.append (nested_tagsAll rest)

end

/-! ### Elements with plain names -/

/-- Whether the names in an element and the elements in it are plain. -/
def Element.HasPlainNames (e : Element) : Prop :=
  ∀ tag ∈ e.tags, tag.HasPlainNames

/-- Elements with plain names. -/
def HavePlainNames (es : List Element) : Prop :=
  ∀ e ∈ es, e.HasPlainNames

@[simp] theorem havePlainNames_nil : HavePlainNames [] :=
  List.forall_mem_nil _

@[simp] theorem havePlainNames_cons (e : Element) (es : List Element) :
    HavePlainNames (e :: es) ↔ e.HasPlainNames ∧ HavePlainNames es :=
  List.forall_mem_cons

@[simp] theorem havePlainNames_append (es es' : List Element) :
    HavePlainNames (es ++ es') ↔ HavePlainNames es ∧ HavePlainNames es' :=
  List.forall_mem_append

/-- What is written for values has plain names if it has them for each. -/
@[simp] theorem havePlainNames_map {α : Type} (toXml : α → Element) (as : List α) :
    HavePlainNames (as.map toXml) ↔ ∀ a ∈ as, (toXml a).HasPlainNames :=
  List.forall_mem_map

/-- What is written for a value, if there is one, has plain names if it has them for that value. -/
@[simp] theorem havePlainNames_toList {α : Type} (toXml : α → Element) (value : Option α) :
    HavePlainNames (value.map toXml).toList ↔ ∀ a ∈ value, (toXml a).HasPlainNames := by
  cases value <;> simp

/-- The names in a container are those of its own tag and those in its elements. -/
@[simp] theorem hasPlainNames_parent (tag : String) (attributes : List Attribute)
    (children : List Element) :
    (Element.parent tag attributes children).HasPlainNames ↔
      IsPlain tag ∧ ArePlain (attributes.map (·.1)) ∧ HavePlainNames children := by
  have inner : (∀ t ∈ tagsAll children, t.HasPlainNames) ↔ HavePlainNames children := by
    induction children with
    | nil => simp [tagsAll]
    | cons e rest ih =>
      rw [tagsAll, List.forall_mem_append, ih, havePlainNames_cons]
      rfl
  rw [Element.HasPlainNames, Element.tags, List.forall_mem_cons, List.forall_mem_append, inner,
    List.forall_mem_singleton]
  simp only [Tag.HasPlainNames]
  tauto

/-- The names in an element without content are those of its tag. -/
@[simp] theorem hasPlainNames_empty (tag : String) (attributes : List Attribute) :
    (Element.empty tag attributes).HasPlainNames ↔
      IsPlain tag ∧ ArePlain (attributes.map (·.1)) := by
  rw [Element.HasPlainNames, Element.tags, List.forall_mem_singleton]
  rfl

/-- The names in an element with a text are those of its tag. -/
@[simp] theorem hasPlainNames_text (tag : String) (attributes : List Attribute)
    (content : String) :
    (Element.text tag attributes content).HasPlainNames ↔
      IsPlain tag ∧ ArePlain (attributes.map (·.1)) := by
  rw [Element.HasPlainNames, Element.tags, List.forall_mem_cons, List.forall_mem_singleton]
  simp only [Tag.HasPlainNames]
  tauto

@[simp] theorem hasPlainNames_leaf (tag content : String) :
    (leaf tag content).HasPlainNames ↔ IsPlain tag := by
  simp [leaf]

@[simp] theorem hasPlainNames_flag (tag : String) (b : Bool) :
    (flag tag b).HasPlainNames ↔ IsPlain tag :=
  hasPlainNames_leaf tag (flagText b)

@[simp] theorem hasPlainNames_group (tag : String) (children : List Element) :
    (group tag children).HasPlainNames ↔ IsPlain tag ∧ HavePlainNames children := by
  simp [group]

/-- The names in leaves are their tags. -/
@[simp] theorem havePlainNames_leaves (pairs : List (String × String)) :
    HavePlainNames (leaves pairs) ↔ ArePlain (pairs.map (·.1)) := by
  simp only [leaves, havePlainNames_map, hasPlainNames_leaf, ArePlain, List.forall_mem_map]

@[simp] theorem hasPlainNames_localized (container item description language : String) :
    (localized container item description language).HasPlainNames ↔
      IsPlain container ∧ IsPlain item := by
  simp +decide [localized]

@[simp] theorem hasPlainNames_labels (description language : String) :
    (labels description language).HasPlainNames :=
  (hasPlainNames_localized _ _ description language).2 (by decide)

@[simp] theorem hasPlainNames_localizedNames (description language : String) :
    (localizedNames description language).HasPlainNames :=
  (hasPlainNames_localized _ _ description language).2 (by decide)

@[simp] theorem hasPlainNames_descriptions (description language : String) :
    (descriptions description language).HasPlainNames :=
  (hasPlainNames_localized _ _ description language).2 (by decide)

/-! ### Reading a document -/

/-- The tag that every document starts with. -/
def declarationTag : Tag :=
  .declaration "xml" [("version", "1.0"), ("encoding", "utf-8")]

/-- The text of a document is that of its first tag and the marks of its root. -/
theorem document_eq (root : Element) :
    document root = printMarks (("", declarationTag) :: root.marks 0) := by
  have first : printMarks [("", declarationTag)] = declaration := by decide +kernel
  rw [document, root.print_eq, ← List.singleton_append, printMarks_append, first]

/-- A text is that of a document with a root: cutting it at its raw angle brackets gives the tags of
the root and the texts before them, as they were written, and the tags nest properly inside a single
one. -/
structure IsDocumentOf (text : String) (root : Element) : Prop where
  /-- After the first tag come those of the root, each with its attributes and after its text. -/
  read_eq : read text = some (("", declarationTag) :: root.marks 0)
  /-- The tags are those of the root's elements, in order. -/
  tags_eq : (root.marks 0).map (·.2) = root.tags
  /-- They nest properly, and all others stand inside the first one. -/
  nested : ∃ name attributes inner,
    root.tags = .start name attributes :: (inner ++ [.stop name]) ∧ Nested inner

/-- What is written for a container with plain names is a document with that root. -/
theorem isDocumentOf_document {root : Element} {tag : String} {attributes : List Attribute}
    {children : List Element} (isParent : root = .parent tag attributes children)
    (h : root.HasPlainNames) : IsDocumentOf (document root) root where
  read_eq := by
    rw [document_eq]
    refine read_printMarks (List.forall_mem_cons.2 ⟨?_, fun m hm => h m.2 ?_⟩)
    · simp +decide only [declarationTag, Tag.HasPlainNames]
    · rw [← root.map_snd_marks 0]
      exact List.mem_map_of_mem hm
  tags_eq := root.map_snd_marks 0
  nested := by
    rw [isParent, Element.tags]
    exact ⟨tag, attributes, tagsAll children, rfl, nested_tagsAll children⟩

end SpecBundle.Xml
