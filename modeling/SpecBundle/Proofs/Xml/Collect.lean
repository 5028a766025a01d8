import SpecBundle.Xml.Element

/-!
# What the elements of a document say

`Element.collect` goes through an element and all elements in it, in document order, and gathers
what a function reads off each of them. Containers are gone through with `collect_parent`; an
element that says nothing contributes nothing.
-/

namespace SpecBundle.Xml

variable {β : Type}

mutual

/-- What is read off an element and the elements in it, in document order. -/
def Element.collect (read : Element → List β) : Element → List β
  | .empty tag attributes => read (.empty tag attributes)
  | .text tag attributes content => read (.text tag attributes content)
  | .parent tag attributes children =>
    read (.parent tag attributes children) ++ collectAll read children

/-- What is read off elements one after the other. -/
def collectAll (read : Element → List β) : List Element → List β
  | [] => []
  | e :: rest => e.collect read ++ collectAll read rest

end

variable (read : Element → List β)

/-- Elements one after the other are gone through each by itself. -/
theorem collectAll_eq_flatMap (es : List Element) :
    collectAll read es = es.flatMap (·.collect read) := by
  induction es with
  | nil => rfl
  | cons e rest ih => rw [collectAll, ih, List.flatMap_cons]

/-- A container is read before the elements in it. -/
theorem collect_parent (tag : String) (attributes : List Attribute) (children : List Element) :
    (Element.parent tag attributes children).collect read =
      read (.parent tag attributes children) ++ children.flatMap (·.collect read) := by
  rw [Element.collect, collectAll_eq_flatMap]

/-- An element without content is read by itself. -/
theorem collect_empty (tag : String) (attributes : List Attribute) :
    (Element.empty tag attributes).collect read = read (.empty tag attributes) := by
  rw [Element.collect]

/-- An element with a text is read by itself. -/
theorem collect_text (tag : String) (attributes : List Attribute) (content : String) :
    (Element.text tag attributes content).collect read = read (.text tag attributes content) := by
  rw [Element.collect]

end SpecBundle.Xml
