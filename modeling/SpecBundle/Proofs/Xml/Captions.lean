import SpecBundle.Proofs.Xml.Tags

/-!
# Captions

What a person gets to see of a generated object, a displayed name, a label or a description, stands
in a document as the value of an attribute `description`. `Element.captions` lists these values, and
`captionsOf?` reads them off the text of a document; both see the same ones
(`IsDocumentOf.captionsOf?_eq`).
-/

namespace SpecBundle.Xml

/-- The captions among the attributes of a tag. -/
def attributeCaptions (attributes : List Attribute) : List String :=
  (attributes.filter (·.1 == "description")).map (·.2)

/-- The captions in a tag. -/
def Tag.captions : Tag → List String
  | .start _ attributes => attributeCaptions attributes
  | .stop _ => []
  | .empty _ attributes => attributeCaptions attributes
  | .declaration _ attributes => attributeCaptions attributes

/-- The captions in an element, in document order. -/
def Element.captions (e : Element) : List String :=
  e.tags.flatMap (·.captions)

/-- The captions in the text of a document, in document order. -/
def captionsOf? (document : String) : Option (List String) :=
  (read document).map fun marks => marks.flatMap (·.2.captions)

/-- The captions read off a document are those of its root. -/
theorem IsDocumentOf.captionsOf?_eq {document : String} {root : Element}
    (h : IsDocumentOf document root) : captionsOf? document = some root.captions := by
  have tags : (root.marks 0).flatMap (·.2.captions) = root.captions := by
    rw [Element.captions, ← h.tags_eq, List.flatMap_map]
  rw [captionsOf?, h.read_eq, Option.map_some, List.flatMap_cons, tags]
  rfl

/-! ## Captions of elements -/

@[simp] theorem attributeCaptions_nil : attributeCaptions [] = [] :=
  rfl

/-- The value of an attribute is a caption if the attribute has the name of one. -/
@[simp] theorem attributeCaptions_cons (name value : String) (attributes : List Attribute) :
    attributeCaptions ((name, value) :: attributes) =
      if name = "description" then value :: attributeCaptions attributes
      else attributeCaptions attributes := by
  unfold attributeCaptions
  by_cases h : name = "description" <;> simp [h]

/-- The captions of a container stand in its own tag and then in its elements. -/
@[simp] theorem captions_parent (tag : String) (attributes : List Attribute)
    (children : List Element) :
    (Element.parent tag attributes children).captions =
      attributeCaptions attributes ++ children.flatMap (·.captions) := by
  have inner : (tagsAll children).flatMap (·.captions) = children.flatMap (·.captions) := by
    induction children with
    | nil => rw [tagsAll]; rfl
    | cons e rest ih => rw [tagsAll, List.flatMap_append, ih]; rfl
  rw [Element.captions, Element.tags, List.flatMap_cons, List.flatMap_append, inner,
    List.flatMap_singleton, Tag.captions, Tag.captions, List.append_nil]

@[simp] theorem captions_group (tag : String) (children : List Element) :
    (group tag children).captions = children.flatMap (·.captions) := by
  rw [group, captions_parent, attributeCaptions_nil, List.nil_append]

@[simp] theorem captions_empty (tag : String) (attributes : List Attribute) :
    (Element.empty tag attributes).captions = attributeCaptions attributes := by
  rw [Element.captions, Element.tags, List.flatMap_singleton, Tag.captions]

@[simp] theorem captions_text (tag : String) (attributes : List Attribute) (content : String) :
    (Element.text tag attributes content).captions = attributeCaptions attributes := by
  rw [Element.captions, Element.tags, List.flatMap_cons, List.flatMap_singleton, Tag.captions,
    Tag.captions, List.append_nil]

@[simp] theorem captions_leaf (tag content : String) : (leaf tag content).captions = [] :=
  captions_text tag [] content

@[simp] theorem captions_flag (tag : String) (b : Bool) : (flag tag b).captions = [] :=
  captions_leaf tag (flagText b)

/-- Leaves have no captions. -/
@[simp] theorem flatMap_captions_leaves (pairs : List (String × String)) :
    (leaves pairs).flatMap (·.captions) = [] := by
  rw [leaves, List.flatMap_map, List.flatMap_eq_nil_iff]
  exact fun p _ => captions_leaf p.1 p.2

/-- A text in some language is a caption. -/
@[simp] theorem captions_localized (container item description language : String) :
    (localized container item description language).captions = [description] := by
  simp [localized]

@[simp] theorem captions_labels (description language : String) :
    (labels description language).captions = [description] :=
  captions_localized _ _ description language

@[simp] theorem captions_localizedNames (description language : String) :
    (localizedNames description language).captions = [description] :=
  captions_localized _ _ description language

@[simp] theorem captions_descriptions (description language : String) :
    (descriptions description language).captions = [description] :=
  captions_localized _ _ description language

/-- A description is a caption if there is one. -/
@[simp] theorem flatMap_captions_description (description : Option String) (language : String) :
    (description.map (descriptions · language)).toList.flatMap (·.captions) =
      description.toList := by
  cases description <;> simp

end SpecBundle.Xml
