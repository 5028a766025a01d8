import Mathlib.Data.List.Basic
import SpecBundle.Proofs.Identifiers.SeedText

/-!
# Printed identifiers

An identifier is printed in lowercase hexadecimal digits, and its hyphens are in the same places
whatever its bytes are (`StableId.splitOn_toString`). The digits are those of the bytes one after
the other, and a byte is read off its two digits, so identifiers are told apart by what is printed
for them (`StableId.toString_inj`). With seeds that are told apart by their texts this says when two
seeds have one printed identifier (`StableId.apart_by_text_and_digest`).
-/

namespace SpecBundle

/-! ## Digits -/

namespace Hex

/-- The hexadecimal digits. -/
def alphabet : List Char := "0123456789abcdef".toList

/-- A number below 16 is printed as a hexadecimal digit. -/
theorem digit_mem_alphabet {n : Nat} (h : n < 16) : digit n ∈ alphabet := by
  have all : ∀ n ∈ List.range 16, digit n ∈ alphabet := by decide
  exact all n (List.mem_range.2 h)

/-- Numbers below 16 are told apart by their digits. -/
theorem digit_inj {m n : Nat} (hm : m < 16) (hn : n < 16) (h : digit m = digit n) : m = n := by
  have all : ∀ m ∈ List.range 16, ∀ n ∈ List.range 16, digit m = digit n → m = n := by decide
  exact all m (List.mem_range.2 hm) n (List.mem_range.2 hn) h

/-- Bytes are printed in hexadecimal digits. -/
theorem mem_alphabet_of_mem_ofBytes {bytes : List UInt8} {c : Char} (h : c ∈ ofBytes bytes) :
    c ∈ alphabet := by
  obtain ⟨b, -, own⟩ := List.mem_flatMap.1 h
  have size := b.toNat_lt
  simp only [byte, List.mem_cons, List.not_mem_nil, or_false] at own
  rcases own with rfl | rfl
  · exact digit_mem_alphabet (by omega)
  · exact digit_mem_alphabet (by omega)

/-- Bytes are told apart by their digits. -/
theorem ofBytes_inj {as bs : List UInt8} (h : ofBytes as = ofBytes bs) : as = bs := by
  induction as generalizing bs with
  | nil =>
    cases bs with
    | nil => rfl
    | cons b bs => cases h
  | cons a as ih =>
    cases bs with
    | nil => cases h
    | cons b bs =>
      obtain ⟨high, low⟩ := List.cons.inj
        (show digit (a.toNat / 16) :: digit (a.toNat % 16) :: ofBytes as =
          digit (b.toNat / 16) :: digit (b.toNat % 16) :: ofBytes bs from h)
      obtain ⟨low, rest⟩ := List.cons.inj low
      have sizeA := a.toNat_lt
      have sizeB := b.toNat_lt
      have quotients := digit_inj (by omega) (by omega) high
      have remainders := digit_inj (by omega) (by omega) low
      have same : a.toNat = b.toNat := by omega
      rw [UInt8.toNat_inj.1 same, ih rest]

end Hex

/-! ## Groups -/

namespace StableId

/-- The digits in groups, as they stand between the hyphens. -/
def groups (id : StableId) : List (List Char) :=
  [id.digits 0 4, id.digits 4 2, id.digits 6 2, id.digits 8 2, id.digits 10 6]

/-- What is printed are the groups with hyphens between them. -/
theorem toList_toString (id : StableId) :
    id.toString.toList = ['-'].intercalate id.groups := by
  rw [toString, String.toList_ofList]
  simp [groups, List.intercalate]

/-- There are digits only in the groups. -/
theorem mem_alphabet_of_mem_groups {id : StableId} {group : List Char} (h : group ∈ id.groups)
    {c : Char} (hc : c ∈ group) : c ∈ Hex.alphabet := by
  simp only [groups, List.mem_cons, List.not_mem_nil, or_false] at h
  rcases h with rfl | rfl | rfl | rfl | rfl <;> exact Hex.mem_alphabet_of_mem_ofBytes hc

/-- What is printed is split into the groups at its hyphens. -/
theorem splitOn_toString (id : StableId) : id.toString.toList.splitOn '-' = id.groups := by
  have hyphenFree : ∀ group ∈ id.groups, '-' ∉ group := fun group h hyphen =>
    absurd (mem_alphabet_of_mem_groups h hyphen) (by decide)
  rw [toList_toString, List.splitOn_intercalate '-' hyphenFree (by simp [groups])]

/-- There are two digits for each byte of a group. -/
theorem length_digits (id : StableId) {position count : Nat} (h : position + count ≤ 16) :
    (id.digits position count).length = 2 * count := by
  have size := id.length_eq
  rw [digits, Hex.length_ofBytes, List.length_take, List.length_drop]
  omega

/-- The groups have 8, 4, 4, 4 and 12 digits. -/
theorem map_length_groups (id : StableId) : id.groups.map List.length = [8, 4, 4, 4, 12] := by
  simp only [groups, List.map_cons, List.map_nil]
  rw [length_digits id (by decide), length_digits id (by decide), length_digits id (by decide),
    length_digits id (by decide), length_digits id (by decide)]

/-- The digits of bytes that follow each other follow each other. -/
theorem digits_append (id : StableId) (position count more : Nat) :
    id.digits position count ++ id.digits (position + count) more =
      id.digits position (count + more) := by
  unfold digits Hex.ofBytes
  rw [← List.flatMap_append, List.take_add, List.drop_drop]

/-- The groups one after the other are the digits of all bytes. -/
theorem flatten_groups (id : StableId) : id.groups.flatten = Hex.ofBytes id.bytes := by
  have all : id.digits 0 16 = Hex.ofBytes id.bytes := by
    rw [digits, List.drop_zero, List.take_of_length_le (Nat.le_of_eq id.length_eq)]
  rw [← all, ← digits_append id 0 10 6, ← digits_append id 0 8 2, ← digits_append id 0 6 2,
    ← digits_append id 0 4 2]
  simp [groups]

/-- Identifiers are told apart by what is printed for them. -/
theorem toString_inj {a b : StableId} : a.toString = b.toString ↔ a.bytes = b.bytes := by
  constructor
  · -- The groups are read off at the hyphens, and the bytes off the digits in them.
    intro h
    have groups : a.groups = b.groups := by rw [← splitOn_toString, ← splitOn_toString, h]
    apply Hex.ofBytes_inj
    rw [← flatten_groups, ← flatten_groups, groups]
  · intro h
    unfold toString digits
    rw [h]

/-- The same for what is printed between braces. -/
theorem braced_inj {a b : StableId} : a.braced = b.braced ↔ a.bytes = b.bytes := by
  rw [braced, braced, String.append_left_inj, String.append_right_inj, toString_inj]

/-- A text is in the form of an identifier: lowercase hexadecimal digits in groups of 8, 4, 4, 4 and
12, with hyphens between the groups. -/
structure HasForm (printed : String) : Prop where
  /-- The hyphens are in their places. -/
  lengths : (printed.toList.splitOn '-').map List.length = [8, 4, 4, 4, 12]
  /-- Between them are digits. -/
  digits : ∀ group ∈ printed.toList.splitOn '-', ∀ c ∈ group, c ∈ Hex.alphabet

/-- Whatever its bytes are, an identifier is printed in the form of one. -/
theorem hasForm_toString (id : StableId) : HasForm id.toString where
  lengths := by rw [splitOn_toString, map_length_groups]
  digits := by
    rw [splitOn_toString]
    exact fun group h c hc => mem_alphabet_of_mem_groups h hc

/-- Seeds with equally many parts, of which none but the last has a colon, have one text only if
they are equal. Texts have one printed identifier, and one between braces, exactly if their digests
agree in the first sixteen bytes, and what is printed is in the form of an identifier. -/
theorem apart_by_text_and_digest :
    (∀ s t : Seed, s.parts.length = t.parts.length → s.ColonFreeButLast → t.ColonFreeButLast →
        (s.text = t.text ↔ s = t)) ∧
      (∀ text text' : String,
        let same := (Sha256.digest text.toUTF8.toList).take 16 =
          (Sha256.digest text'.toUTF8.toList).take 16
        ((ofText text).toString = (ofText text').toString ↔ same) ∧
          ((ofText text).braced = (ofText text').braced ↔ same)) ∧
      ∀ id : StableId, HasForm id.toString ∧ id.braced = "\x7b" ++ id.toString ++ "\x7d" := by
  refine ⟨fun s t length hs ht => ⟨?_, congrArg Seed.text⟩, fun text text' => ?_, fun id => ?_⟩
  · exact Seed.eq_of_text_eq_of_length_eq length hs ht
  · exact ⟨toString_inj, braced_inj⟩
  · exact ⟨hasForm_toString id, rfl⟩

/-- The last parts of two seeds may have colons. -/
theorem apart_by_text_and_digest_colons :
    let s : Seed := ⟨"cell", ["agency", "main", "a:b"]⟩
    let t : Seed := ⟨"cell", ["agency", "main", "a:"]⟩
    s.parts.length = t.parts.length ∧ s.ColonFreeButLast ∧ t.ColonFreeButLast ∧
      (s.text = t.text ↔ s = t) := by
  have hs : Seed.ColonFreeButLast ⟨"cell", ["agency", "main", "a:b"]⟩ := by
    unfold Seed.ColonFreeButLast
    decide
  have ht : Seed.ColonFreeButLast ⟨"cell", ["agency", "main", "a:"]⟩ := by
    unfold Seed.ColonFreeButLast
    decide
  exact ⟨rfl, hs, ht, apart_by_text_and_digest.1 _ _ rfl hs ht⟩

end StableId

end SpecBundle
