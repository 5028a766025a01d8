import SpecBundle.Proofs.Text.Lowercase
import SpecBundle.Proofs.Text.Utf8

/-!
# Texts by their bytes

What is found by the bytes of a text is what is found by its characters: folding `A` to `Z` in the
bytes of a text gives the bytes of the folded text (`map_foldByte_bytesOf`), bytes with which a text
starts are those of characters with which it starts (`prefix_of_bytesOf_prefix`), and behind these a
text can be cut (`textFrom?_append`). `bytesTo?` and `textFrom?` are partial where a program would
fail, at bytes beyond the end and at cuts inside of a character.
-/

namespace SpecBundle.Utf8

/-! ## The bytes of characters -/

/-- The bytes of characters. -/
def bytesOf (cs : List Char) : List UInt8 :=
  cs.flatMap String.utf8EncodeChar

/-- The bytes of the characters of a text are those that the text is made of. -/
theorem bytesOf_toList (s : String) : bytesOf s.toList = s.toByteArray.data.toList := by
  rw [← String.utf8Encode_toList, List.utf8Encode, List.toList_data_toByteArray, bytesOf]

/-- The bytes of characters behind others follow theirs. -/
theorem bytesOf_append (as bs : List Char) : bytesOf (as ++ bs) = bytesOf as ++ bytesOf bs :=
  List.flatMap_append

/-- There are bytes for every character. -/
theorem bytesOf_eq_nil_iff {cs : List Char} : bytesOf cs = [] ↔ cs = [] := by
  rw [bytesOf, List.flatMap_eq_nil_iff]
  constructor
  · intro none
    exact List.eq_nil_iff_forall_not_mem.2 fun c hc => String.utf8EncodeChar_ne_nil (none c hc)
  · rintro rfl c hc
    cases hc

/-- The bytes of a character outside of ASCII are outside of ASCII. -/
theorem le_of_mem_utf8EncodeChar {c : Char} (h : 128 ≤ c.toNat) {b : UInt8}
    (hb : b ∈ String.utf8EncodeChar c) : 128 ≤ b.toNat := by
  have bytes := Utf8.utf8EncodeChar_ofNat (n := c.toNat) c.valid
  rw [Char.ofNat_toNat, if_neg (by omega)] at bytes
  rw [bytes] at hb
  -- One case for each length, as the writer has them.
  split at hb
  · simp only [List.mem_cons, List.not_mem_nil, or_false] at hb
    rcases hb with rfl | rfl <;> rw [UInt8.toNat_ofNat'] <;> omega
  split at hb
  · simp only [List.mem_cons, List.not_mem_nil, or_false] at hb
    rcases hb with rfl | rfl | rfl <;> rw [UInt8.toNat_ofNat'] <;> omega
  · simp only [List.mem_cons, List.not_mem_nil, or_false] at hb
    rcases hb with rfl | rfl | rfl | rfl <;> rw [UInt8.toNat_ofNat'] <;> omega

/-- The byte of an ASCII character is its number. -/
theorem utf8EncodeChar_of_lt {c : Char} (h : c.toNat < 128) :
    String.utf8EncodeChar c = [UInt8.ofNat c.toNat] := by
  have bytes := Utf8.utf8EncodeChar_ofNat (n := c.toNat) c.valid
  rwa [Char.ofNat_toNat, if_pos (by omega)] at bytes

/-- The byte of an underscore stands behind characters exactly if an underscore does. -/
theorem getElem?_bytesOf_append_eq_iff {head rest : List Char} :
    (bytesOf (head ++ rest))[(bytesOf head).length]? = some 0x5F ↔ ∃ more, rest = '_' :: more := by
  rw [bytesOf_append, List.getElem?_append_right (Nat.le_refl _), Nat.sub_self]
  constructor
  · intro h
    cases rest with
    | nil => cases h
    | cons c more =>
      refine ⟨more, congrArg (· :: more) ?_⟩
      obtain ⟨b, others, bytes⟩ :=
        List.exists_cons_of_ne_nil (String.utf8EncodeChar_ne_nil (c := c))
      rw [bytesOf, List.flatMap_cons, bytes] at h
      obtain rfl : b = 0x5F := Option.some.inj h
      -- No other character has this byte as its first one.
      by_cases ascii : c.toNat < 128
      · rw [utf8EncodeChar_of_lt ascii] at bytes
        have number := congrArg UInt8.toNat (List.cons.inj bytes).1
        rw [UInt8.toNat_ofNat', Nat.mod_eq_of_lt (by omega)] at number
        exact Char.toNat_inj.1 number
      · have high := le_of_mem_utf8EncodeChar (Nat.le_of_not_lt ascii) (bytes ▸ List.mem_cons_self)
        exact absurd high (by decide)
  · rintro ⟨more, rfl⟩
    rfl

/-- Where the bytes of characters are followed by those of others, so are the characters. -/
theorem prefix_of_bytesOf_prefix {as bs : List Char} (h : bytesOf as <+: bytesOf bs) :
    as <+: bs := by
  obtain ⟨rest, whole⟩ := h
  apply List.isPrefix_of_utf8Encode_append_eq_utf8Encode rest.toByteArray
  rw [List.utf8Encode, List.utf8Encode, ← List.toByteArray_append]
  exact congrArg List.toByteArray whole

/-- The number of bytes of a text. -/
theorem length_bytesOf (s : String) : (bytesOf s.toList).length = s.utf8ByteSize := by
  rw [bytesOf, ← List.size_toByteArray, ← List.utf8Encode, String.utf8Encode_toList]
  rfl

/-! ## Folding -/

/-- A byte with `A` to `Z` in lowercase. -/
def foldByte (b : UInt8) : UInt8 :=
  if 0x41 ≤ b ∧ b ≤ 0x5A then b + 0x20 else b

/-- A byte that is no capital letter stays. -/
theorem foldByte_of_not_capital {b : UInt8} (h : ¬ (65 ≤ b.toNat ∧ b.toNat ≤ 90)) :
    foldByte b = b :=
  if_neg fun ⟨ge, le⟩ => h ⟨UInt8.le_iff_toNat_le.1 ge, UInt8.le_iff_toNat_le.1 le⟩

/-- The bytes of a character are folded as the character is. -/
theorem map_foldByte_utf8EncodeChar (c : Char) :
    (String.utf8EncodeChar c).map foldByte = String.utf8EncodeChar c.toLower := by
  by_cases capital : 65 ≤ c.toNat ∧ c.toNat ≤ 90
  · exact Text.of_capital
      (P := fun c => (String.utf8EncodeChar c).map foldByte = String.utf8EncodeChar c.toLower)
      (by decide) capital
  · -- Bytes of other characters are outside of ASCII or that of a character that stays.
    have stays : ∀ b ∈ String.utf8EncodeChar c, foldByte b = b := by
      intro b hb
      apply foldByte_of_not_capital
      by_cases ascii : c.toNat < 128
      · rw [utf8EncodeChar_of_lt ascii, List.mem_singleton] at hb
        rwa [hb, UInt8.toNat_ofNat', Nat.mod_eq_of_lt (by omega)]
      · have high := le_of_mem_utf8EncodeChar (Nat.le_of_not_lt ascii) hb
        omega
    rw [Text.toLower_of_not_capital capital, List.map_congr_left stays, List.map_id']

/-- Bytes are folded as the characters are. -/
theorem map_foldByte_bytesOf (cs : List Char) :
    (bytesOf cs).map foldByte = bytesOf (cs.map Char.toLower) := by
  rw [bytesOf, bytesOf, List.map_flatMap, List.flatMap_map]
  simp only [map_foldByte_utf8EncodeChar]

/-- Texts that differ in the case of ASCII letters only have equally many bytes. -/
theorem length_bytesOf_of_folded {as bs : List Char}
    (h : as.map Char.toLower = bs.map Char.toLower) :
    (bytesOf as).length = (bytesOf bs).length := by
  have folded := congrArg (fun cs => (bytesOf cs).length) h
  simpa only [← map_foldByte_bytesOf, List.length_map] using folded

/-- The bytes at the start of a text are those of a start, but for case, exactly if its characters
are. -/
theorem map_foldByte_take_iff {start text : List Char} :
    ((bytesOf text).take (bytesOf start).length).map foldByte = (bytesOf start).map foldByte ↔
      ∃ head rest, head.map Char.toLower = start.map Char.toLower ∧ text = head ++ rest := by
  constructor
  · intro h
    -- Folding does not move bytes, so a start of the folded bytes is the folded start.
    rw [List.map_take, map_foldByte_bytesOf, map_foldByte_bytesOf] at h
    have starts : bytesOf (start.map Char.toLower) <+: bytesOf (text.map Char.toLower) :=
      h ▸ List.take_prefix _ _
    obtain ⟨rest, whole⟩ := prefix_of_bytesOf_prefix starts
    obtain ⟨head, behind, split, same, -⟩ := List.map_eq_append_iff.1 whole.symm
    exact ⟨head, behind, same, split⟩
  · rintro ⟨head, rest, same, rfl⟩
    rw [← length_bytesOf_of_folded same, bytesOf_append, List.take_left, map_foldByte_bytesOf,
      map_foldByte_bytesOf, same]

/-! ## Reading and cutting -/

/-- So many bytes from the start. There are none if that leads beyond the end. -/
def bytesTo? (bytes : List UInt8) (count : Nat) : Option (List UInt8) :=
  if count ≤ bytes.length then some (bytes.take count) else none

/-- The text from a byte on. There is none if the byte lies beyond the end or inside of a
character. -/
def textFrom? (s : String) (position : Nat) : Option String :=
  if h : String.Pos.Raw.IsValid s ⟨position⟩ then some (s.sliceFrom ⟨⟨position⟩, h⟩).copy else none

/-- A text that is put together of two is cut where the second one starts. -/
theorem textFrom?_append (s t : String) :
    textFrom? (s ++ t) (bytesOf s.toList).length = some t := by
  have valid : String.Pos.Raw.IsValid (s ++ t) ⟨s.utf8ByteSize⟩ :=
    String.Pos.Raw.isValid_iff_exists_append.2 ⟨s, t, rfl, rfl⟩
  have splits : String.Pos.Splits ⟨⟨s.utf8ByteSize⟩, valid⟩ s t := ⟨rfl, rfl⟩
  rw [textFrom?, length_bytesOf, dif_pos valid, splits.copy_sliceFrom_eq]

end SpecBundle.Utf8
