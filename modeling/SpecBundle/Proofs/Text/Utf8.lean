import Mathlib.Tactic.ByContra
import SpecBundle.Text.Utf8

/-!
# Reading UTF-8 inverts writing it

A text is written as UTF-8 character by character (`String.utf8EncodeChar`), and a byte order mark
may precede it. `Utf8.strict?` reads bytes one at a time and remembers the character that has
started. `Utf8.reads` says what is still read from such a state on, so that a character of two,
three or four bytes is followed from its first byte to its last one. Bytes are read as a text
exactly if they are what is written for it (`Utf8.strict?_eq_some_iff`).
-/

namespace SpecBundle.Utf8

/-! ## What is read from a state on -/

/-- What is read of bytes when a character may have started. -/
def reads : Option Pending → List UInt8 → List (Option Char)
  | none, [] => []
  | some _, [] => [none]
  | pending, b :: rest =>
    (step (pending, []) b).2.reverse ++ reads (step (pending, []) b).1 rest

/-- What has been read stays as it is when a byte is read between characters. -/
theorem begin?_eq (read : List (Option Char)) (b : UInt8) :
    begin? read b = ((begin? [] b).1, (begin? [] b).2 ++ read) := by
  unfold begin?
  cases start b.toNat <;> rfl

/-- What has been read stays as it is when one more byte is read. -/
theorem step_eq (pending : Option Pending) (read : List (Option Char)) (b : UInt8) :
    step (pending, read) b = ((step (pending, []) b).1, (step (pending, []) b).2 ++ read) := by
  cases pending with
  | none => exact begin?_eq read b
  | some p =>
    simp only [step]
    split
    · split <;> rfl
    · rw [begin?_eq (none :: read), begin?_eq [none], List.append_assoc]
      rfl

/-- What has been read when the bytes are at an end. -/
def finish (state : Option Pending × List (Option Char)) : List (Option Char) :=
  (if state.1.isSome then none :: state.2 else state.2).reverse

/-- Bytes are read one after the other. -/
theorem finish_foldl_step (pending : Option Pending) (read : List (Option Char))
    (bytes : List UInt8) :
    finish (bytes.foldl step (pending, read)) = read.reverse ++ reads pending bytes := by
  induction bytes generalizing pending read with
  | nil => cases pending <;> simp [finish, reads]
  | cons b rest ih =>
    have first : reads pending (b :: rest) =
        (step (pending, []) b).2.reverse ++ reads (step (pending, []) b).1 rest := by
      cases pending <;> rfl
    rw [List.foldl_cons, step_eq, ih, first, List.reverse_append, List.append_assoc]

/-- All bytes are read from between characters on. -/
theorem decode_eq_reads (bytes : List UInt8) : decode bytes = reads none bytes :=
  finish_foldl_step none [] bytes

/-! ## One byte -/

/-- What a byte between characters is read as. -/
theorem reads_none_cons (b : UInt8) (rest : List UInt8) :
    reads none (b :: rest) =
      match start b.toNat with
      | .char c => some c :: reads none rest
      | .longer p => reads (some p) rest
      | .invalid => none :: reads none rest := by
  simp only [reads, step, begin?]
  cases start b.toNat <;> rfl

section

variable {needed least greatest bits : Nat} {b : UInt8} (low : least ≤ b.toNat)
  (high : b.toNat ≤ greatest) (rest : List UInt8)

include low high

/-- A byte that lies within the bounds ends a character that needs no more. -/
theorem reads_last :
    reads (some ⟨1, least, greatest, bits⟩) (b :: rest) =
      some (Char.ofNat (bits * 64 + (b.toNat - 0x80))) :: reads none rest := by
  simp [reads, step, low, high]

/-- A byte that lies within the bounds continues a character that needs more. -/
theorem reads_next :
    reads (some ⟨needed + 2, least, greatest, bits⟩) (b :: rest) =
      reads (some ⟨needed + 1, 0x80, 0xBF, bits * 64 + (b.toNat - 0x80)⟩) rest := by
  simp [reads, step, low, high]

end

/-- A character that has started is read without a fault only if a byte follows that continues
it. -/
theorem exists_of_clean {needed least greatest bits : Nat} {bytes : List UInt8}
    (clean : none ∉ reads (some ⟨needed, least, greatest, bits⟩) bytes) :
    ∃ b rest, bytes = b :: rest ∧ least ≤ b.toNat ∧ b.toNat ≤ greatest := by
  cases bytes with
  | nil => exact absurd (List.mem_singleton_self none) clean
  | cons b rest =>
    refine ⟨b, rest, rfl, ?_⟩
    by_contra outside
    apply clean
    -- A byte that does not continue the character ends it as a fault.
    have fault : (step (some ⟨needed, least, greatest, bits⟩, []) b).2 =
        (begin? [] b).2 ++ [none] := by
      have no : (least ≤ b.toNat && b.toNat ≤ greatest) = false := by simpa using outside
      simp only [step, no, Bool.false_eq_true, if_false]
      rw [begin?_eq]
    rw [reads, fault, List.reverse_append]
    exact List.mem_cons_self

/-! ## One character -/

section

variable {b₀ b₁ b₂ b₃ : UInt8}

/-- A byte that starts a character of two bytes. -/
theorem reads_start_two (low : 0xC2 ≤ b₀.toNat) (high : b₀.toNat < 0xE0) (rest : List UInt8) :
    reads none (b₀ :: rest) = reads (some ⟨1, 0x80, 0xBF, b₀.toNat - 0xC0⟩) rest := by
  rw [reads_none_cons, start, if_neg (by omega), if_neg (by omega), if_pos high]

/-- A byte that starts a character of three bytes. -/
theorem reads_start_three (low : 0xE0 ≤ b₀.toNat) (high : b₀.toNat < 0xF0) (rest : List UInt8) :
    reads none (b₀ :: rest) =
      reads (some ⟨2, if b₀.toNat = 0xE0 then 0xA0 else 0x80,
        if b₀.toNat = 0xED then 0x9F else 0xBF, b₀.toNat - 0xE0⟩) rest := by
  rw [reads_none_cons, start, if_neg (by omega), if_neg (by omega), if_neg (by omega),
    if_pos high]

/-- A byte that starts a character of four bytes. -/
theorem reads_start_four (low : 0xF0 ≤ b₀.toNat) (high : b₀.toNat < 0xF5) (rest : List UInt8) :
    reads none (b₀ :: rest) =
      reads (some ⟨3, if b₀.toNat = 0xF0 then 0x90 else 0x80,
        if b₀.toNat = 0xF4 then 0x8F else 0xBF, b₀.toNat - 0xF0⟩) rest := by
  rw [reads_none_cons, start, if_neg (by omega), if_neg (by omega), if_neg (by omega),
    if_neg (by omega), if_pos high]

/-- A character of three bytes. The bounds of the second one exclude spellings that are too long and
halves of surrogate pairs. -/
theorem reads_three (low : 0xE0 ≤ b₀.toNat) (high : b₀.toNat < 0xF0)
    (low₁ : (if b₀.toNat = 0xE0 then 0xA0 else 0x80) ≤ b₁.toNat)
    (high₁ : b₁.toNat ≤ if b₀.toNat = 0xED then 0x9F else 0xBF)
    (low₂ : 0x80 ≤ b₂.toNat) (high₂ : b₂.toNat ≤ 0xBF) (rest : List UInt8) :
    reads none (b₀ :: b₁ :: b₂ :: rest) =
      some (Char.ofNat (((b₀.toNat - 0xE0) * 64 + (b₁.toNat - 0x80)) * 64 + (b₂.toNat - 0x80))) ::
        reads none rest := by
  rw [reads_start_three low high, reads_next low₁ high₁, reads_last low₂ high₂]

/-- A character of four bytes. The bounds of the second one exclude spellings that are too long and
numbers beyond the last character. -/
theorem reads_four (low : 0xF0 ≤ b₀.toNat) (high : b₀.toNat < 0xF5)
    (low₁ : (if b₀.toNat = 0xF0 then 0x90 else 0x80) ≤ b₁.toNat)
    (high₁ : b₁.toNat ≤ if b₀.toNat = 0xF4 then 0x8F else 0xBF)
    (low₂ : 0x80 ≤ b₂.toNat) (high₂ : b₂.toNat ≤ 0xBF)
    (low₃ : 0x80 ≤ b₃.toNat) (high₃ : b₃.toNat ≤ 0xBF) (rest : List UInt8) :
    reads none (b₀ :: b₁ :: b₂ :: b₃ :: rest) =
      some (Char.ofNat ((((b₀.toNat - 0xF0) * 64 + (b₁.toNat - 0x80)) * 64 +
        (b₂.toNat - 0x80)) * 64 + (b₃.toNat - 0x80))) :: reads none rest := by
  rw [reads_start_four low high, reads_next low₁ high₁, reads_next low₂ high₂,
    reads_last low₃ high₃]

end

/-- What is written for the character of a number. -/
theorem utf8EncodeChar_ofNat {n : Nat} (valid : n < 0xD800 ∨ 0xDFFF < n ∧ n < 0x110000) :
    String.utf8EncodeChar (Char.ofNat n) =
      if n ≤ 0x7F then [UInt8.ofNat n]
      else if n ≤ 0x7FF then [UInt8.ofNat (n / 64 % 32 + 0xC0), UInt8.ofNat (n % 64 + 0x80)]
      else if n ≤ 0xFFFF then
        [UInt8.ofNat (n / 4096 % 16 + 0xE0), UInt8.ofNat (n / 64 % 64 + 0x80),
          UInt8.ofNat (n % 64 + 0x80)]
      else
        [UInt8.ofNat (n / 262144 % 8 + 0xF0), UInt8.ofNat (n / 4096 % 64 + 0x80),
          UInt8.ofNat (n / 64 % 64 + 0x80), UInt8.ofNat (n % 64 + 0x80)] := by
  have number : (Char.ofNat n).val.toNat = n := congrArg Char.toNat (dif_pos valid)
  unfold String.utf8EncodeChar
  rw [number]

/-- What is written for a character is read as that character. -/
theorem reads_utf8EncodeChar (c : Char) (rest : List UInt8) :
    reads none (String.utf8EncodeChar c ++ rest) = some c :: reads none rest := by
  obtain ⟨n, valid, rfl⟩ : ∃ n, (n < 0xD800 ∨ 0xDFFF < n ∧ n < 0x110000) ∧ c = Char.ofNat n :=
    ⟨c.toNat, c.valid, (Char.ofNat_toNat c).symm⟩
  have byte {k : Nat} (h : k < 256) : (UInt8.ofNat k).toNat = k := by
    rw [UInt8.toNat_ofNat', Nat.mod_eq_of_lt h]
  rw [utf8EncodeChar_ofNat valid]
  -- One case for each length, as the writer has them.
  split
  · next one =>
    have h₀ := byte (k := n) (by omega)
    rw [List.singleton_append, reads_none_cons, h₀, start, if_pos (by omega)]
  split
  · next two =>
    have h₀ := byte (k := n / 64 % 32 + 0xC0) (by omega)
    have h₁ := byte (k := n % 64 + 0x80) (by omega)
    generalize UInt8.ofNat (n / 64 % 32 + 0xC0) = b₀ at h₀ ⊢
    generalize UInt8.ofNat (n % 64 + 0x80) = b₁ at h₁ ⊢
    have number : (b₀.toNat - 0xC0) * 64 + (b₁.toNat - 0x80) = n := by omega
    show reads none (b₀ :: b₁ :: rest) = _
    rw [reads_start_two (by omega) (by omega), reads_last (by omega) (by omega), number]
  split
  · next three =>
    have h₀ := byte (k := n / 4096 % 16 + 0xE0) (by omega)
    have h₁ := byte (k := n / 64 % 64 + 0x80) (by omega)
    have h₂ := byte (k := n % 64 + 0x80) (by omega)
    generalize UInt8.ofNat (n / 4096 % 16 + 0xE0) = b₀ at h₀ ⊢
    generalize UInt8.ofNat (n / 64 % 64 + 0x80) = b₁ at h₁ ⊢
    generalize UInt8.ofNat (n % 64 + 0x80) = b₂ at h₂ ⊢
    have number : ((b₀.toNat - 0xE0) * 64 + (b₁.toNat - 0x80)) * 64 + (b₂.toNat - 0x80) = n := by
      omega
    show reads none (b₀ :: b₁ :: b₂ :: rest) = _
    rw [reads_three (by omega) (by omega) (by split <;> omega) (by split <;> omega) (by omega)
      (by omega), number]
  · next four =>
    have h₀ := byte (k := n / 262144 % 8 + 0xF0) (by omega)
    have h₁ := byte (k := n / 4096 % 64 + 0x80) (by omega)
    have h₂ := byte (k := n / 64 % 64 + 0x80) (by omega)
    have h₃ := byte (k := n % 64 + 0x80) (by omega)
    generalize UInt8.ofNat (n / 262144 % 8 + 0xF0) = b₀ at h₀ ⊢
    generalize UInt8.ofNat (n / 4096 % 64 + 0x80) = b₁ at h₁ ⊢
    generalize UInt8.ofNat (n / 64 % 64 + 0x80) = b₂ at h₂ ⊢
    generalize UInt8.ofNat (n % 64 + 0x80) = b₃ at h₃ ⊢
    have number : (((b₀.toNat - 0xF0) * 64 + (b₁.toNat - 0x80)) * 64 + (b₂.toNat - 0x80)) * 64 +
        (b₃.toNat - 0x80) = n := by omega
    show reads none (b₀ :: b₁ :: b₂ :: b₃ :: rest) = _
    rw [reads_four (by omega) (by omega) (by split <;> omega) (by split <;> omega) (by omega)
      (by omega) (by omega) (by omega), number]

/-- Bytes that are read without a fault start with what is written for a character. -/
theorem exists_char_of_clean {b₀ : UInt8} {rest : List UInt8}
    (clean : none ∉ reads none (b₀ :: rest)) :
    ∃ c rest', b₀ :: rest = String.utf8EncodeChar c ++ rest' := by
  have same {b : UInt8} {k : Nat} (h : k = b.toNat) : UInt8.ofNat k = b := by
    rw [h, UInt8.ofNat_toNat]
  have size : b₀.toNat < 256 := b₀.toNat_lt
  have invalid (h : start b₀.toNat = .invalid) : False := by
    rw [reads_none_cons, h] at clean
    exact clean List.mem_cons_self
  -- One case for each interval of first bytes. The bytes that follow are there, for without one of
  -- them there would be a fault.
  by_cases one : b₀.toNat < 0x80
  · refine ⟨Char.ofNat b₀.toNat, rest, ?_⟩
    rw [utf8EncodeChar_ofNat (by omega), if_pos (by omega), same rfl]
    rfl
  by_cases none : b₀.toNat < 0xC2
  · exact absurd (by rw [start, if_neg one, if_pos none]) invalid
  by_cases two : b₀.toNat < 0xE0
  · rw [reads_start_two (by omega) two] at clean
    obtain ⟨b₁, rest, rfl, low₁, high₁⟩ := exists_of_clean clean
    refine ⟨Char.ofNat ((b₀.toNat - 0xC0) * 64 + (b₁.toNat - 0x80)), rest, ?_⟩
    rw [utf8EncodeChar_ofNat (by omega), if_neg (by omega), if_pos (by omega),
      same (b := b₀) (by omega), same (b := b₁) (by omega)]
    rfl
  by_cases three : b₀.toNat < 0xF0
  · rw [reads_start_three (by omega) three] at clean
    obtain ⟨b₁, rest, rfl, low₁, high₁⟩ := exists_of_clean clean
    rw [reads_next low₁ high₁] at clean
    obtain ⟨b₂, rest, rfl, low₂, high₂⟩ := exists_of_clean clean
    refine ⟨Char.ofNat (((b₀.toNat - 0xE0) * 64 + (b₁.toNat - 0x80)) * 64 + (b₂.toNat - 0x80)),
      rest, ?_⟩
    split at low₁ <;> split at high₁
    all_goals
      rw [utf8EncodeChar_ofNat (by omega), if_neg (by omega), if_neg (by omega), if_pos (by omega),
        same (b := b₀) (by omega), same (b := b₁) (by omega), same (b := b₂) (by omega)]
      rfl
  by_cases four : b₀.toNat < 0xF5
  · rw [reads_start_four (by omega) four] at clean
    obtain ⟨b₁, rest, rfl, low₁, high₁⟩ := exists_of_clean clean
    rw [reads_next low₁ high₁] at clean
    obtain ⟨b₂, rest, rfl, low₂, high₂⟩ := exists_of_clean clean
    rw [reads_next low₂ high₂] at clean
    obtain ⟨b₃, rest, rfl, low₃, high₃⟩ := exists_of_clean clean
    refine ⟨Char.ofNat ((((b₀.toNat - 0xF0) * 64 + (b₁.toNat - 0x80)) * 64 +
      (b₂.toNat - 0x80)) * 64 + (b₃.toNat - 0x80)), rest, ?_⟩
    split at low₁ <;> split at high₁
    all_goals
      rw [utf8EncodeChar_ofNat (by omega), if_neg (by omega), if_neg (by omega), if_neg (by omega),
        same (b := b₀) (by omega), same (b := b₁) (by omega), same (b := b₂) (by omega),
        same (b := b₃) (by omega)]
      rfl
  · exact absurd (by rw [start, if_neg one, if_neg none, if_neg two, if_neg three, if_neg four])
      invalid

/-! ## A text -/

/-- What is written for characters is read as these, and nothing else is. -/
theorem reads_eq_map_some_iff {bytes : List UInt8} {cs : List Char} :
    reads none bytes = cs.map some ↔ bytes = cs.flatMap String.utf8EncodeChar := by
  constructor
  · intro h
    -- As long as bytes are left, they start with what is written for a character, and that is read
    -- as this character.
    induction cs generalizing bytes with
    | nil =>
      cases bytes with
      | nil => rfl
      | cons b rest =>
        have clean : none ∉ reads none (b :: rest) := by
          rw [h]
          exact List.not_mem_nil
        obtain ⟨c, rest', split⟩ := exists_char_of_clean clean
        rw [split, reads_utf8EncodeChar] at h
        cases h
    | cons c cs ih =>
      cases bytes with
      | nil => cases h
      | cons b rest =>
        have clean : none ∉ reads none (b :: rest) := by
          rw [h]
          simp
        obtain ⟨c', rest', split⟩ := exists_char_of_clean clean
        rw [split, reads_utf8EncodeChar, List.map_cons] at h
        obtain ⟨same, more⟩ := List.cons.inj h
        obtain rfl := Option.some.inj same
        rw [split, List.flatMap_cons, ← ih more]
  · rintro rfl
    induction cs with
    | nil => rfl
    | cons c cs ih => rw [List.flatMap_cons, reads_utf8EncodeChar, ih, List.map_cons]

/-- All characters of a list are there if none is missing. -/
theorem mapM_id_eq_some_iff {read : List (Option Char)} {cs : List Char} :
    read.mapM id = some cs ↔ read = cs.map some := by
  induction read generalizing cs with
  | nil => cases cs <;> simp
  | cons c read ih =>
    rw [List.mapM_cons]
    cases c with
    | none => cases cs <;> simp
    | some c =>
      cases cs with
      | nil => simp [Option.bind_eq_some_iff]
      | cons d cs =>
        simp [Option.bind_eq_some_iff, ih]
        exact and_comm

/-- The bytes of a text are those of its characters. -/
theorem toList_toUTF8 (text : String) :
    text.toUTF8.toList = text.toList.flatMap String.utf8EncodeChar := by
  have loop (content : ByteArray) (i : Nat) (read : List UInt8) :
      ByteArray.toList.loop content i read = read.reverse ++ content.data.toList.drop i := by
    fun_induction ByteArray.toList.loop content i read with
    | case1 i read inside ih =>
      have index : i < content.data.toList.length := by simpa using inside
      rw [ih, List.drop_eq_getElem_cons index]
      simp [ByteArray.get!, inside]
    | case2 i read outside =>
      have end' : content.data.toList.length ≤ i := by simpa using Nat.le_of_not_lt outside
      rw [List.drop_eq_nil_of_le end', List.append_nil]
  rw [ByteArray.toList, loop, List.drop_zero, String.toUTF8, ← String.utf8Encode_toList,
    List.utf8Encode, List.toList_data_toByteArray]
  rfl

/-- The bytes of a byte order mark, which are those of a character. -/
def markBytes : List UInt8 := [0xEF, 0xBB, 0xBF]

/-- Bytes spell a text: they are what is written for it. A byte order mark may stand before that,
and one that stands at the start is no part of the text. -/
def Spells (bytes : List UInt8) (text : String) : Prop :=
  bytes = markBytes ++ text.toUTF8.toList ∨
    bytes = text.toUTF8.toList ∧ text.toList.head? ≠ some '\uFEFF'

/-- A mark is taken off once. -/
theorem withoutMark_eq_iff {bytes rest : List UInt8} :
    withoutMark bytes = rest ↔
      bytes = markBytes ++ rest ∨ bytes = rest ∧ ¬ markBytes <+: rest := by
  -- Of the two alternatives, one needs a mark at the start and the other one excludes it.
  by_cases marked : markBytes <+: bytes
  · obtain ⟨after, rfl⟩ := marked
    have off : withoutMark (markBytes ++ after) = after := rfl
    rw [off]
    constructor
    · rintro rfl
      exact .inl rfl
    · rintro (same | ⟨rfl, no⟩)
      · exact List.append_cancel_left same
      · exact absurd (List.prefix_append markBytes after) no
  · have stays : withoutMark bytes = bytes := by
      unfold withoutMark
      split
      · next after => exact absurd (List.prefix_append markBytes after) marked
      · rfl
    rw [stays]
    constructor
    · rintro rfl
      exact .inr ⟨rfl, marked⟩
    · rintro (rfl | ⟨rfl, -⟩)
      · exact absurd (List.prefix_append markBytes rest) marked
      · rfl

/-- What is written for characters starts with a mark exactly if the first of them is that of the
mark. -/
theorem markBytes_prefix_iff {cs : List Char} :
    markBytes <+: cs.flatMap String.utf8EncodeChar ↔ cs.head? = some '\uFEFF' := by
  have mark : String.utf8EncodeChar '\uFEFF' = markBytes := by decide
  constructor
  · rintro ⟨rest, written⟩
    have read := reads_eq_map_some_iff.2 (rfl : cs.flatMap String.utf8EncodeChar = _)
    rw [← written, ← mark, reads_utf8EncodeChar] at read
    cases cs with
    | nil => cases read
    | cons c cs =>
      obtain ⟨same, -⟩ := List.cons.inj read
      exact same.symm
  · intro first
    obtain ⟨rest, rfl⟩ := List.head?_eq_some_iff.1 first
    rw [List.flatMap_cons, mark]
    exact List.prefix_append _ _

/-- Bytes are read as a text exactly if they spell it. -/
theorem strict?_eq_some_iff {bytes : List UInt8} {text : String} :
    strict? bytes = some text ↔ Spells bytes text := by
  have read : strict? bytes = some text ↔ withoutMark bytes = text.toUTF8.toList := by
    rw [strict?, Option.map_eq_some_iff, toList_toUTF8, ← reads_eq_map_some_iff,
      ← decode_eq_reads, ← mapM_id_eq_some_iff]
    constructor
    · rintro ⟨cs, found, rfl⟩
      rw [String.toList_ofList]
      exact found
    · intro found
      exact ⟨text.toList, found, String.ofList_toList⟩
  rw [read, withoutMark_eq_iff, toList_toUTF8, markBytes_prefix_iff, Spells, toList_toUTF8]

end SpecBundle.Utf8
