import SpecBundle.Proofs.Xml.Collect

/-!
# The identifiers in a document

Generated objects bear their identifiers in two ways: forms and saved queries have an element of
their own for it, and tabs, sections, cells, headers and footers have an attribute. No other
element bears one, so `Element.identifiers` lists the identifiers of all generated objects of a
document, in document order.
-/

namespace SpecBundle.Xml

/-- The elements that hold the identifier of the object around them. -/
def identifierTags : List String := ["formid", "savedqueryid"]

/-- The elements that are generated objects with an identifier as an attribute. -/
def objectTags : List String := ["tab", "section", "cell", "header", "footer"]

/-- The identifier that an object of some tag and attributes bears. -/
def objectIdentifiers (tag : String) (attributes : List Attribute) : List String :=
  if tag ∈ objectTags then (attributes.lookup "id").toList else []

/-- The identifier that an element by itself bears, if it bears one. -/
def Element.ownIdentifiers : Element → List String
  | .empty tag attributes => objectIdentifiers tag attributes
  | .text tag _ content => if tag ∈ identifierTags then [content] else []
  | .parent tag attributes _ => objectIdentifiers tag attributes

/-- The identifiers of the generated objects in an element, in document order. -/
def Element.identifiers (e : Element) : List String :=
  e.collect Element.ownIdentifiers

/-- What is no object bears no identifier, whatever its attributes are. -/
theorem objectIdentifiers_of_not_mem {tag : String} (h : tag ∉ objectTags)
    (attributes : List Attribute) : objectIdentifiers tag attributes = [] :=
  if_neg h

/-- An object without attributes has no identifier. -/
@[simp] theorem objectIdentifiers_nil (tag : String) : objectIdentifiers tag [] = [] := by
  unfold objectIdentifiers
  split <;> rfl

/-- A container bears its own identifier before those in it. -/
@[simp] theorem identifiers_parent (tag : String) (attributes : List Attribute)
    (children : List Element) :
    (Element.parent tag attributes children).identifiers =
      objectIdentifiers tag attributes ++ children.flatMap (·.identifiers) :=
  collect_parent Element.ownIdentifiers tag attributes children

/-- A container without attributes bears none of its own. -/
@[simp] theorem identifiers_group (tag : String) (children : List Element) :
    (group tag children).identifiers = children.flatMap (·.identifiers) := by
  rw [group, identifiers_parent, objectIdentifiers_nil, List.nil_append]

@[simp] theorem identifiers_empty (tag : String) (attributes : List Attribute) :
    (Element.empty tag attributes).identifiers = objectIdentifiers tag attributes :=
  collect_empty Element.ownIdentifiers tag attributes

@[simp] theorem identifiers_text (tag : String) (attributes : List Attribute) (content : String) :
    (Element.text tag attributes content).identifiers =
      if tag ∈ identifierTags then [content] else [] :=
  collect_text Element.ownIdentifiers tag attributes content

@[simp] theorem identifiers_leaf (tag content : String) :
    (leaf tag content).identifiers = if tag ∈ identifierTags then [content] else [] :=
  identifiers_text tag [] content

@[simp] theorem identifiers_flag (tag : String) (b : Bool) :
    (flag tag b).identifiers = if tag ∈ identifierTags then [flagText b] else [] :=
  identifiers_leaf tag (flagText b)

/-- Texts in some language bear no identifier. -/
@[simp] theorem identifiers_localized (container item description language : String) :
    (localized container item description language).identifiers = [] := by
  have none : objectIdentifiers item
      [("description", description), ("languagecode", language)] = [] := by
    unfold objectIdentifiers
    split <;> rfl
  rw [localized, identifiers_group, List.flatMap_singleton, identifiers_empty, none]

@[simp] theorem identifiers_labels (description language : String) :
    (labels description language).identifiers = [] :=
  identifiers_localized _ _ description language

@[simp] theorem identifiers_localizedNames (description language : String) :
    (localizedNames description language).identifiers = [] :=
  identifiers_localized _ _ description language

@[simp] theorem identifiers_descriptions (description language : String) :
    (descriptions description language).identifiers = [] :=
  identifiers_localized _ _ description language

/-- Leaves whose tags are not those of identifiers bear none. -/
theorem flatMap_identifiers_leaves {pairs : List (String × String)}
    (h : ∀ p ∈ pairs, p.1 ∉ identifierTags) :
    (leaves pairs).flatMap (·.identifiers) = [] := by
  rw [leaves, List.flatMap_map, List.flatMap_eq_nil_iff]
  intro p hp
  rw [identifiers_leaf, if_neg (h p hp)]

/-- An element that is there for some values only, and never bears an identifier, adds none. -/
theorem flatMap_identifiers_toList {α : Type} {toXml : α → Element}
    (h : ∀ a, (toXml a).identifiers = []) (value : Option α) :
    (value.map toXml).toList.flatMap (·.identifiers) = [] := by
  cases value with
  | none => rfl
  | some a => rw [Option.map_some, Option.toList_some, List.flatMap_singleton, h a]

/-- A description adds no identifier. -/
@[simp] theorem flatMap_identifiers_description (description : Option String) (language : String) :
    (description.map (descriptions · language)).toList.flatMap (·.identifiers) = [] :=
  flatMap_identifiers_toList (identifiers_descriptions · language) description

end SpecBundle.Xml
