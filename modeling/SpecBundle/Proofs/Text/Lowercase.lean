import SpecBundle.Text.Lowercase

/-!
# Lowercasing in pieces

Lowercasing looks beyond a character only for the capital sigma, whose form depends on the nearest
neighbours that are not skipped. A character that is never skipped therefore cuts a text in two:
what stands before it is lowercased alike whatever follows it (`lowerAfter_append_cons`). The
underscore is such a character, and ASCII text is folded letter by letter, so a name with an
underscore and ASCII text behind it has a lowercase form that ends in the folded text
(`lowercase_append_underscore`). How many characters a lowercase form has depends on no neighbour
(`length_lowerAfter`). Lowercasing leads to the letter `a` and beyond, so digits and most
punctuation are in a lowercase form only if they are in the text (`mem_of_mem_lowercase`).
-/

namespace SpecBundle.Text

/-! ## Neighbours -/

/-- A character that is not skipped hides what follows it from the search for a cased letter. -/
theorem startsCased_append_cons {c : Char} (hc : inRanges caseIgnorableRanges c = false)
    (before after : List Char) :
    startsCased (before ++ c :: after) = startsCased (before ++ [c]) := by
  induction before with
  | nil => simp only [List.nil_append, startsCased, hc, Bool.false_eq_true, if_false]
  | cons d before ih => simp only [List.cons_append, startsCased, ih]

/-- The form of a character that is no capital sigma does not depend on its neighbours. -/
theorem lowerAt_of_ne {c : Char} (hc : c ≠ 'Σ') (before after : List Char) :
    lowerAt before c after = lowerChar c := by
  rw [lowerAt, if_neg hc]

/-- A text is lowercased alike up to a character that is not skipped, whatever follows it. -/
theorem lowerAfter_append_cons {c : Char} (hc : inRanges caseIgnorableRanges c = false)
    (hne : c ≠ 'Σ') (before text after : List Char) :
    lowerAfter before (text ++ c :: after) =
      lowerAfter before (text ++ [c]) ++ lowerAfter (c :: (text.reverse ++ before)) after := by
  induction text generalizing before with
  | nil => simp [lowerAfter, lowerAt_of_ne hne]
  | cons d text ih =>
    have here : lowerAt before d (text ++ c :: after) = lowerAt before d (text ++ [c]) := by
      simp only [lowerAt, startsCased_append_cons hc]
    simp only [List.cons_append, lowerAfter, here, ih]
    simp

/-! ## ASCII text -/

/-- An ASCII character is folded. -/
theorem lowerChar_of_lt {c : Char} (hc : c.toNat < 128) : lowerChar c = [c.toLower] := by
  rw [lowerChar, if_pos hc]

/-- ASCII text is folded, whatever stands before it. -/
theorem lowerAfter_of_ascii {text : List Char} (h : ∀ c ∈ text, c.toNat < 128)
    (before : List Char) : lowerAfter before text = text.map Char.toLower := by
  induction text generalizing before with
  | nil => rfl
  | cons c text ih =>
    have hc : c.toNat < 128 := h c List.mem_cons_self
    have hne : c ≠ 'Σ' := by
      rintro rfl
      exact absurd hc (by decide)
    rw [lowerAfter, lowerAt_of_ne hne, lowerChar_of_lt hc,
      ih fun d hd => h d (List.mem_cons_of_mem c hd)]
    rfl

/-- A digit is an ASCII character. -/
theorem toNat_lt_of_isDigit {c : Char} (h : c.isDigit) : c.toNat < 128 := by
  simp only [Char.isDigit, Bool.and_eq_true, decide_eq_true_eq, UInt32.le_iff_toNat_le] at h
  have le : c.toNat ≤ 57 := h.2
  omega

/-- A character that is no capital letter has no other form. -/
theorem toLower_of_not_capital {c : Char} (h : ¬ (65 ≤ c.toNat ∧ c.toNat ≤ 90)) :
    c.toLower = c := by
  refine dif_neg ?_
  rintro ⟨ge, le⟩
  exact h ⟨UInt32.le_iff_toNat_le.1 ge, UInt32.le_iff_toNat_le.1 le⟩

/-- What holds of the capital letters one by one holds of each. -/
theorem of_capital {P : Char → Prop} (h : ∀ code ∈ List.range' 65 26, P (Char.ofNat code))
    {c : Char} (capital : 65 ≤ c.toNat ∧ c.toNat ≤ 90) : P c := by
  have here := h c.toNat (List.mem_range'_1.2 (by omega))
  rwa [Char.ofNat_toNat] at here

/-- A digit has no case. -/
theorem toLower_of_isDigit {c : Char} (h : c.isDigit) : c.toLower = c := by
  simp only [Char.isDigit, Bool.and_eq_true, decide_eq_true_eq, UInt32.le_iff_toNat_le] at h
  have le : c.toNat ≤ 57 := h.2
  refine toLower_of_not_capital ?_
  omega

/-- The lowercase form of a name with an underscore and ASCII text behind it ends in the folded
text, and what stands before that depends on the name only. -/
theorem lowercase_append_underscore (name : String) {tail : String}
    (h : ∀ c ∈ tail.toList, c.toNat < 128) :
    lowercase (name ++ "_" ++ tail) =
      String.ofList (lowerAfter [] (name.toList ++ ['_'])) ++
        String.ofList (tail.toList.map Char.toLower) := by
  have text : (name ++ "_" ++ tail).toList = name.toList ++ '_' :: tail.toList := by simp
  have skipped : inRanges caseIgnorableRanges '_' = false := by decide +kernel
  rw [lowercase, text, lowerAfter_append_cons skipped (by decide), lowerAfter_of_ascii h,
    String.ofList_append]

/-! ## Lengths -/

/-- The number of characters of a character's lowercase form does not depend on its neighbours. -/
theorem length_lowerAt (before after : List Char) (c : Char) :
    (lowerAt before c after).length = (lowerAt [] c []).length := by
  unfold lowerAt
  split
  · split <;> rfl
  · rfl

/-- The number of characters of a lowercase form is that of its characters' forms. -/
theorem length_lowerAfter (before text : List Char) :
    (lowerAfter before text).length = (text.flatMap (lowerAt [] · [])).length := by
  induction text generalizing before with
  | nil => rfl
  | cons c text ih =>
    rw [lowerAfter, List.length_append, length_lowerAt, ih, List.flatMap_cons, List.length_append]

/-- A text with an underscore behind it has one more character in lowercase. -/
theorem length_lowerAfter_underscore (text : List Char) :
    (lowerAfter [] (text ++ ['_'])).length = (lowerAfter [] text).length + 1 := by
  have one : (lowerAt [] '_' []).length = 1 := by decide
  rw [length_lowerAfter, length_lowerAfter, List.flatMap_append, List.length_append,
    List.flatMap_singleton, one]

/-! ## Characters below the small letters -/

/-- Every run leads to code points from that of `a` on. -/
theorem le_of_mem_lowercaseRuns : ∀ run ∈ lowercaseRuns, 97 ≤ (run.first : Int) + run.offset := by
  decide +kernel

/-- Folding a capital letter gives a small letter. -/
theorem toLower_of_toNat_lt {c : Char} (h : c.toLower.toNat < 97) : c.toLower = c := by
  refine toLower_of_not_capital fun capital => ?_
  have le : 97 ≤ c.toLower.toNat :=
    of_capital (P := fun c => 97 ≤ c.toLower.toNat) (by decide) capital
  omega

/-- A code point is that of a character unless it is replaced by zero. -/
theorem toNat_ofNat (code : Nat) :
    (Char.ofNat code).toNat = code ∨ (Char.ofNat code).toNat = 0 := by
  by_cases h : code.isValidChar
  · exact .inl (congrArg Char.toNat (dif_pos h))
  · exact .inr (congrArg Char.toNat (dif_neg h))

variable {c d : Char}

/-- A character below the small letters in the form of a character is that character. -/
theorem eq_of_mem_lowerChar (hpos : 0 < d.toNat) (hd : d.toNat < 97) (h : d ∈ lowerChar c) :
    d = c := by
  unfold lowerChar at h
  split at h
  · rw [List.mem_singleton] at h
    rw [h] at hd ⊢
    exact toLower_of_toNat_lt hd
  split at h
  · simp only [List.mem_cons, List.not_mem_nil, or_false] at h
    rcases h with rfl | rfl <;> exact absurd hd (by decide)
  split at h
  · rename_i run found
    exfalso
    -- A run leads to a small letter or beyond, whose code point is kept or replaced by zero.
    have covered := List.find?_some found
    have high := le_of_mem_lowercaseRuns run (List.mem_of_find?_eq_some found)
    simp only [CaseRun.covers, Bool.and_eq_true, decide_eq_true_eq] at covered
    rw [List.mem_singleton.1 h] at hd hpos
    rcases toNat_ofNat (c.toNat + run.offset).toNat with code | code <;> omega
  · exact List.mem_singleton.1 h

/-- The same where the neighbours count: both small sigmas are beyond the letter `a`. -/
theorem eq_of_mem_lowerAt (hpos : 0 < d.toNat) (hd : d.toNat < 97) {before after : List Char}
    (h : d ∈ lowerAt before c after) : d = c := by
  unfold lowerAt at h
  split at h
  · exfalso
    split at h
    · rw [List.mem_singleton.1 h] at hd
      exact absurd hd (by decide)
    · rw [List.mem_singleton.1 h] at hd
      exact absurd hd (by decide)
  · exact eq_of_mem_lowerChar hpos hd h

/-- Lowercasing brings no character below the small letters in. -/
theorem mem_of_mem_lowerAfter (hpos : 0 < d.toNat) (hd : d.toNat < 97) {before text : List Char}
    (h : d ∈ lowerAfter before text) : d ∈ text := by
  induction text generalizing before with
  | nil => exact h
  | cons c text ih =>
    rcases List.mem_append.1 h with here | later
    · rw [eq_of_mem_lowerAt hpos hd here]
      exact List.mem_cons_self
    · exact List.mem_cons_of_mem c (ih later)

/-- A lowercase text has the characters below the small letters that the text has. -/
theorem mem_of_mem_lowercase (hpos : 0 < d.toNat) (hd : d.toNat < 97) {s : String}
    (h : d ∈ (lowercase s).toList) : d ∈ s.toList := by
  rw [lowercase, String.toList_ofList] at h
  exact mem_of_mem_lowerAfter hpos hd h

/-! ## Texts that are the same but for case -/

/-- Whether two texts are the same but for case does not depend on which one is given first. -/
theorem equalsIgnoringCase_comm (s t : String) :
    equalsIgnoringCase s t = equalsIgnoringCase t s :=
  BEq.comm

end SpecBundle.Text
