import Mathlib.Data.List.Basic
import SpecBundle.Xml.Element

/-!
# Elements by their place in a document

`Element.select` follows a path of tags from an element down to the elements at its end, in
document order. What a document says of something is then read off the elements that stand where
it belongs; branches of other tags are left aside without a look into them.
-/

namespace SpecBundle.Xml

namespace Element

/-- The tag of an element. -/
def tag : Element → String
  | .empty tag _ => tag
  | .text tag _ _ => tag
  | .parent tag _ _ => tag

/-- The value of an element's attribute, if it has it. -/
def attribute? (e : Element) (name : String) : Option String :=
  match e with
  | .empty _ attributes => attributes.lookup name
  | .text _ attributes _ => attributes.lookup name
  | .parent _ attributes _ => attributes.lookup name

/-- The elements directly in an element. -/
def children : Element → List Element
  | .empty _ _ => []
  | .text _ _ _ => []
  | .parent _ _ children => children

/-- The text that an element holds, if it holds one. -/
def content? : Element → Option String
  | .empty _ _ => none
  | .text _ _ content => some content
  | .parent _ _ _ => none

/-- The elements at the end of a path of tags, in document order. -/
def select : (path : List String) → Element → List Element
  | [], e => [e]
  | tag :: path, e => e.children.flatMap fun child =>
    if child.tag = tag then child.select path else []

/-- The texts at the end of a path of tags. -/
def texts (path : List String) (e : Element) : List String :=
  (e.select path).filterMap (·.content?)

/-- The values of an attribute of the elements at the end of a path. -/
def values (path : List String) (name : String) (e : Element) : List String :=
  (e.select path).filterMap (·.attribute? name)

end Element

open Element

/-- The elements at the end of a path of tags, the first of which is that of one of the given
elements. -/
def selectFrom (tag : String) (path : List String) (es : List Element) : List Element :=
  es.flatMap fun e => if e.tag = tag then e.select path else []

@[simp] theorem select_nil (e : Element) : e.select [] = [e] := rfl

/-- A path is followed through the elements in an element. -/
theorem select_cons (tag : String) (path : List String) (e : Element) :
    e.select (tag :: path) = selectFrom tag path e.children := rfl

section

variable (tag : String) (path : List String)

@[simp] theorem selectFrom_nil : selectFrom tag path [] = [] := rfl

@[simp] theorem selectFrom_cons (e : Element) (es : List Element) :
    selectFrom tag path (e :: es) =
      (if e.tag = tag then e.select path else []) ++ selectFrom tag path es :=
  List.flatMap_cons

@[simp] theorem selectFrom_append (es es' : List Element) :
    selectFrom tag path (es ++ es') = selectFrom tag path es ++ selectFrom tag path es' :=
  List.flatMap_append

/-- Through elements of the first tag a path is followed in all of them. -/
theorem selectFrom_map {α : Type} (toXml : α → Element) (h : ∀ a, (toXml a).tag = tag)
    (as : List α) :
    selectFrom tag path (as.map toXml) = as.flatMap fun a => (toXml a).select path := by
  rw [selectFrom, List.flatMap_map]
  exact List.flatMap_congr fun a _ => if_pos (h a)

/-- At the end of a path, elements of its tag are what is looked for. -/
theorem selectFrom_map_nil {α : Type} (toXml : α → Element) (h : ∀ a, (toXml a).tag = tag)
    (as : List α) : selectFrom tag [] (as.map toXml) = as.map toXml := by
  rw [selectFrom_map tag [] toXml h, List.map_eq_flatMap]
  rfl

/-- The values of an attribute at the end of a path are those of the elements that have it. -/
theorem filterMap_attribute?_map {α : Type} (toXml : α → Element) (name : String)
    (value : α → String) (h : ∀ a, (toXml a).tag = tag)
    (written : ∀ a, (toXml a).attribute? name = some (value a)) (as : List α) :
    (selectFrom tag [] (as.map toXml)).filterMap (·.attribute? name) = as.map value := by
  rw [selectFrom_map_nil tag toXml h, List.filterMap_map, ← List.filterMap_eq_map]
  exact List.filterMap_congr fun a _ => written a

/-- Elements of other tags are left aside. -/
theorem selectFrom_of_ne {es : List Element} (h : ∀ e ∈ es, e.tag ≠ tag) :
    selectFrom tag path es = [] :=
  List.flatMap_eq_nil_iff.2 fun e he => if_neg (h e he)

/-- What is written in elements of other tags is left aside. -/
theorem selectFrom_map_of_ne {α : Type} {toXml : α → Element} (h : ∀ a, (toXml a).tag ≠ tag)
    (as : List α) : selectFrom tag path (as.map toXml) = [] := by
  refine selectFrom_of_ne tag path fun e he => ?_
  obtain ⟨a, -, rfl⟩ := List.mem_map.1 he
  exact h a

end

/-- A path is followed one part after the other. -/
theorem select_append (first second : List String) (e : Element) :
    e.select (first ++ second) = (e.select first).flatMap (·.select second) := by
  induction first generalizing e with
  | nil => rw [List.nil_append, select_nil, List.flatMap_singleton]
  | cons tag path ih =>
    rw [List.cons_append, select_cons, select_cons, selectFrom, selectFrom, List.flatMap_assoc]
    refine List.flatMap_congr fun child _ => ?_
    split
    · exact ih child
    · rfl

/-- The values at the end of a path are those at the end of its second part, for all elements at
the end of its first part. -/
theorem values_append (first second : List String) (name : String) (e : Element) :
    e.values (first ++ second) name = (e.select first).flatMap (·.values second name) := by
  rw [values, select_append, List.filterMap_flatMap]
  rfl

/-! ## The parts of an element -/

@[simp] theorem tag_empty (tag : String) (attributes : List Attribute) :
    (Element.empty tag attributes).tag = tag := rfl

@[simp] theorem tag_text (tag : String) (attributes : List Attribute) (content : String) :
    (Element.text tag attributes content).tag = tag := rfl

@[simp] theorem tag_parent (tag : String) (attributes : List Attribute) (children : List Element) :
    (Element.parent tag attributes children).tag = tag := rfl

@[simp] theorem tag_leaf (tag content : String) : (leaf tag content).tag = tag := rfl

@[simp] theorem tag_group (tag : String) (children : List Element) :
    (group tag children).tag = tag := rfl

@[simp] theorem tag_flag (tag : String) (b : Bool) : (flag tag b).tag = tag := rfl

@[simp] theorem tag_localized (container item description language : String) :
    (localized container item description language).tag = container := rfl

@[simp] theorem tag_labels (description language : String) :
    (labels description language).tag = "labels" := rfl

@[simp] theorem tag_localizedNames (description language : String) :
    (localizedNames description language).tag = "LocalizedNames" := rfl

@[simp] theorem tag_descriptions (description language : String) :
    (descriptions description language).tag = "Descriptions" := rfl

@[simp] theorem children_empty (tag : String) (attributes : List Attribute) :
    (Element.empty tag attributes).children = [] := rfl

@[simp] theorem children_parent (tag : String) (attributes : List Attribute)
    (children : List Element) : (Element.parent tag attributes children).children = children := rfl

@[simp] theorem children_group (tag : String) (children : List Element) :
    (group tag children).children = children := rfl

@[simp] theorem attribute?_parent (tag : String) (attributes : List Attribute)
    (children : List Element) (name : String) :
    (Element.parent tag attributes children).attribute? name = attributes.lookup name := rfl

@[simp] theorem attribute?_empty (tag : String) (attributes : List Attribute) (name : String) :
    (Element.empty tag attributes).attribute? name = attributes.lookup name := rfl

@[simp] theorem content?_text (tag : String) (attributes : List Attribute) (content : String) :
    (Element.text tag attributes content).content? = some content := rfl

@[simp] theorem content?_leaf (tag content : String) : (leaf tag content).content? = some content :=
  rfl

/-- Leaves of other tags are left aside. -/
theorem selectFrom_leaves_of_not_mem {tag : String} (path : List String)
    {pairs : List (String × String)} (h : tag ∉ pairs.map (·.1)) :
    selectFrom tag path (leaves pairs) = [] := by
  refine selectFrom_of_ne tag path fun e he same => h ?_
  obtain ⟨pair, among, rfl⟩ := List.mem_map.1 he
  exact List.mem_map.2 ⟨pair, among, same⟩

end SpecBundle.Xml
