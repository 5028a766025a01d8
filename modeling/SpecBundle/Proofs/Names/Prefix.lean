import SpecBundle.Names
import SpecBundle.Proofs.Text.Bytes

/-!
# Taking a prefix off a name

A name loses the publisher's prefix and the underscore behind it if something follows them, and only
then (`bareName_of_isPrefixed`, `bareName_of_forall`). The same is found by comparing bytes, where a
name has to be cut at a byte: `cutName?` reads only bytes that it has found to be there, and where
it cuts a character starts, so it always gives a name, and that is the bare name
(`cutName?_eq_bareName`).
-/

namespace SpecBundle

open Utf8

/-! ## Names with a prefix -/

/-- What follows a start, where the case of ASCII letters does not count, is what stands behind a
start that differs in that only. -/
theorem afterIgnoringCase_eq_some_iff {start text rest : List Char} :
    afterIgnoringCase start text = some rest ↔
      ∃ head, head.map Char.toLower = start.map Char.toLower ∧ text = head ++ rest := by
  induction start generalizing text with
  | nil =>
    rw [afterIgnoringCase]
    constructor
    · intro h
      exact ⟨[], rfl, Option.some.inj h⟩
    · rintro ⟨head, same, rfl⟩
      rw [List.map_eq_nil_iff.1 same, List.nil_append]
  | cons s start ih =>
    cases text with
    | nil =>
      rw [afterIgnoringCase]
      constructor
      · intro h
        cases h
      · rintro ⟨head, same, none⟩
        rw [(List.append_eq_nil_iff.1 none.symm).1] at same
        cases same
    | cons c text =>
      rw [afterIgnoringCase]
      constructor
      · intro h
        split at h
        · next same =>
          obtain ⟨head, others, rfl⟩ := ih.1 h
          exact ⟨c :: head, by rw [List.map_cons, List.map_cons, same, others], rfl⟩
        · cases h
      · rintro ⟨head, same, split⟩
        cases head with
        | nil => cases same
        | cons d head =>
          obtain ⟨rfl, rfl⟩ := List.cons.inj split
          obtain ⟨first, others⟩ := List.cons.inj same
          rw [if_pos first.symm]
          exact ih.2 ⟨head, others, rfl⟩

/-- A name is a prefix in some case of ASCII letters, an underscore and a remainder. -/
def IsPrefixed (schemaName namePrefix remainder : String) : Prop :=
  ∃ start, Text.equalsIgnoringCase start namePrefix = true ∧
    schemaName = start ++ "_" ++ remainder

variable {schemaName namePrefix remainder : String}

/-- A name has a prefix exactly if the underscore and the remainder are found behind it. -/
theorem isPrefixed_iff :
    IsPrefixed schemaName namePrefix remainder ↔
      afterIgnoringCase namePrefix.toList schemaName.toList = some ('_' :: remainder.toList) := by
  rw [afterIgnoringCase_eq_some_iff]
  constructor
  · rintro ⟨start, same, rfl⟩
    exact ⟨start.toList, eq_of_beq same, by simp⟩
  · rintro ⟨head, same, split⟩
    refine ⟨String.ofList head, ?_, String.toList_inj.1 ?_⟩
    · rw [Text.equalsIgnoringCase, Text.foldAscii, String.toList_ofList]
      exact beq_iff_eq.2 same
    · rw [split]
      simp

/-- The prefix and the underscore are taken off where something follows them. -/
theorem bareName_of_isPrefixed (h : IsPrefixed schemaName namePrefix remainder)
    (some : remainder ≠ "") : bareName schemaName namePrefix = remainder := by
  obtain ⟨c, rest, split⟩ :=
    List.exists_cons_of_ne_nil fun none => some (String.toList_inj.1 none)
  rw [bareName, isPrefixed_iff.1 h, split]
  show String.ofList (c :: rest) = remainder
  rw [← split, String.ofList_toList]

/-- Any other name stays as it is. -/
theorem bareName_of_forall (h : ∀ remainder, IsPrefixed schemaName namePrefix remainder →
    remainder = "") : bareName schemaName namePrefix = schemaName := by
  unfold bareName
  split
  · next c rest found =>
    have prefixed : IsPrefixed schemaName namePrefix (String.ofList (c :: rest)) := by
      rw [isPrefixed_iff, String.toList_ofList, found]
    have none := congrArg String.toList (h _ prefixed)
    rw [String.toList_ofList] at none
    cases none
  · rfl

/-! ## Names by bytes -/

/-- The name without the publisher's prefix and its underscore, found by bytes. There is none if
bytes are sought where there are none, or if the name is cut inside of a character. -/
def cutName? (schemaName namePrefix : String) : Option String := do
  let name := schemaName.toUTF8.toList
  let start := namePrefix.toUTF8.toList
  if name.length ≤ start.length + 1 then
    return schemaName
  let head ← bytesTo? name start.length
  if head.map foldByte ≠ start.map foldByte then
    return schemaName
  let separator ← name[start.length]?
  if separator ≠ 0x5F then
    return schemaName
  textFrom? schemaName (start.length + 1)

/-- A name has the prefix exactly if its first bytes are those of the prefix, but for case, and the
next one is that of an underscore. -/
theorem exists_isPrefixed_iff :
    (∃ remainder, IsPrefixed schemaName namePrefix remainder) ↔
      ((bytesOf schemaName.toList).take (bytesOf namePrefix.toList).length).map foldByte =
          (bytesOf namePrefix.toList).map foldByte ∧
        (bytesOf schemaName.toList)[(bytesOf namePrefix.toList).length]? = some 0x5F := by
  simp only [isPrefixed_iff, afterIgnoringCase_eq_some_iff, map_foldByte_take_iff]
  constructor
  · rintro ⟨remainder, head, same, split⟩
    refine ⟨⟨head, _, same, split⟩, ?_⟩
    rw [split, ← length_bytesOf_of_folded same]
    exact getElem?_bytesOf_append_eq_iff.2 ⟨_, rfl⟩
  · rintro ⟨⟨head, rest, same, split⟩, separator⟩
    rw [split, ← length_bytesOf_of_folded same] at separator
    obtain ⟨more, rfl⟩ := getElem?_bytesOf_append_eq_iff.1 separator
    exact ⟨String.ofList more, head, same, by rw [split, String.toList_ofList]⟩

/-! ### Cutting -/

/-- A name with the prefix has as many bytes as the prefix, the underscore and the remainder. -/
theorem length_bytesOf_of_isPrefixed (h : IsPrefixed schemaName namePrefix remainder) :
    (bytesOf schemaName.toList).length =
      (bytesOf namePrefix.toList).length + 1 + (bytesOf remainder.toList).length := by
  obtain ⟨start, same, rfl⟩ := h
  simp only [String.toList_append, bytesOf_append, List.length_append,
    length_bytesOf_of_folded (eq_of_beq same)]
  rfl

/-- A name is no remainder of itself. -/
theorem not_isPrefixed_self : ¬ IsPrefixed schemaName namePrefix schemaName := by
  intro h
  have length := length_bytesOf_of_isPrefixed h
  omega

/-- Nothing follows the prefix and the underscore exactly if the name is no longer than these. -/
theorem eq_empty_iff_of_isPrefixed (h : IsPrefixed schemaName namePrefix remainder) :
    remainder = "" ↔
      (bytesOf schemaName.toList).length ≤ (bytesOf namePrefix.toList).length + 1 := by
  have length := length_bytesOf_of_isPrefixed h
  constructor
  · rintro rfl
    exact Nat.le_of_eq length
  · intro short
    have none : bytesOf remainder.toList = [] := List.length_eq_zero_iff.1 (by omega)
    exact String.toList_inj.1 (bytesOf_eq_nil_iff.1 none)

/-- A name with the prefix can be cut behind as many bytes as the prefix and the underscore have. -/
theorem textFrom?_of_isPrefixed (h : IsPrefixed schemaName namePrefix remainder) :
    textFrom? schemaName ((bytesOf namePrefix.toList).length + 1) = some remainder := by
  obtain ⟨start, same, rfl⟩ := h
  have size : (bytesOf (start ++ "_").toList).length = (bytesOf namePrefix.toList).length + 1 := by
    rw [String.toList_append, bytesOf_append, List.length_append,
      length_bytesOf_of_folded (eq_of_beq same)]
    rfl
  rw [← size, textFrom?_append]

/-- Bytes are always there where they are sought, and a character starts where the name is cut; what
is found is the bare name. -/
theorem cutName?_eq_bareName (schemaName namePrefix : String) :
    cutName? schemaName namePrefix = some (bareName schemaName namePrefix) := by
  rw [cutName?, Utf8.toList_toUTF8, Utf8.toList_toUTF8, ← bytesOf, ← bytesOf]
  by_cases short : (bytesOf schemaName.toList).length ≤ (bytesOf namePrefix.toList).length + 1
  · have stays : bareName schemaName namePrefix = schemaName :=
      bareName_of_forall fun remainder h => (eq_empty_iff_of_isPrefixed h).2 short
    rw [if_pos short, stays]
    rfl
  -- The name is long enough for both accesses to its bytes.
  have separator := List.getElem?_eq_getElem (l := bytesOf schemaName.toList)
    (i := (bytesOf namePrefix.toList).length) (by omega)
  generalize (bytesOf schemaName.toList)[(bytesOf namePrefix.toList).length] = b at separator
  rw [if_neg short, bytesTo?, if_pos (by omega), separator]
  show (if _ then _ else if _ then _ else _) = _
  by_cases prefixed : ∃ remainder, IsPrefixed schemaName namePrefix remainder
  · obtain ⟨folded, underscore⟩ := exists_isPrefixed_iff.1 prefixed
    obtain ⟨remainder, h⟩ := prefixed
    rw [separator, Option.some.injEq] at underscore
    rw [if_neg (not_not.2 folded), if_neg (not_not.2 underscore), textFrom?_of_isPrefixed h,
      bareName_of_isPrefixed h (mt (eq_empty_iff_of_isPrefixed h).1 short)]
  · have stays : bareName schemaName namePrefix = schemaName :=
      bareName_of_forall fun remainder h => absurd ⟨remainder, h⟩ prefixed
    rw [exists_isPrefixed_iff, separator, Option.some.injEq, not_and_or] at prefixed
    rw [stays]
    rcases prefixed with start | other
    · rw [if_pos start]
      rfl
    · rw [if_pos other]
      exact ite_self _

/-! ## What is taken off -/

/-- The bare name is found by bytes, without looking where there are none and without a cut inside
of a character. It is empty only if the name is. It is the name itself or the remainder behind the
prefix and an underscore, and it is the latter exactly if the name has such a remainder that is not
empty. -/
theorem bareName_exact (schemaName namePrefix : String) :
    cutName? schemaName namePrefix = some (bareName schemaName namePrefix) ∧
      (bareName schemaName namePrefix = "" → schemaName = "") ∧
      (bareName schemaName namePrefix = schemaName ∨
        IsPrefixed schemaName namePrefix (bareName schemaName namePrefix)) ∧
      (IsPrefixed schemaName namePrefix (bareName schemaName namePrefix) ↔
        ∃ remainder, remainder ≠ "" ∧ IsPrefixed schemaName namePrefix remainder) ∧
      (bareName schemaName namePrefix = schemaName ↔
        ¬ ∃ remainder, remainder ≠ "" ∧ IsPrefixed schemaName namePrefix remainder) := by
  refine ⟨cutName?_eq_bareName schemaName namePrefix, ?_⟩
  by_cases prefixed : ∃ remainder, remainder ≠ "" ∧ IsPrefixed schemaName namePrefix remainder
  · obtain ⟨remainder, some, h⟩ := id prefixed
    have shorter : remainder ≠ schemaName := by
      rintro rfl
      exact not_isPrefixed_self h
    rw [bareName_of_isPrefixed h some]
    exact ⟨fun none => absurd none some, .inr h, iff_of_true h prefixed,
      iff_of_false shorter (not_not.2 prefixed)⟩
  · have stays : bareName schemaName namePrefix = schemaName :=
      bareName_of_forall fun remainder h => by_contra fun some => prefixed ⟨remainder, some, h⟩
    rw [stays]
    exact ⟨id, .inl rfl, iff_of_false not_isPrefixed_self prefixed, iff_of_true rfl prefixed⟩

end SpecBundle
