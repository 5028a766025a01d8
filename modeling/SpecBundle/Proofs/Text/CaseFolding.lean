import SpecBundle.Proofs.Text.Lowercase

/-!
# Two ways to ignore case

A name is compared with another one in two ways: through its lowercase form, in which every letter
has its small form, and letter by letter where only `A` to `Z` are folded. The lowercase form is
the coarser of the two. It is final, that is, lowercasing it changes nothing
(`lowercase_lowercase`), and it does not matter to it whether `A` to `Z` were folded first
(`lowercase_eq_of_equalsIgnoringCase`). Names that are equal but for ASCII case thus have one
lowercase form; the converse fails for letters outside of ASCII.

That lowercase forms are final is a fact about the table of letter case: no run of the table leads
into a run. It is checked for all pairs of runs by comparing their ends (`CaseRun.avoids`).
-/

namespace SpecBundle.Text

/-! ## Runs of the table -/

namespace CaseRun

/-- The code point that a run leads a code point to. -/
def lead (run : CaseRun) (code : Nat) : Nat :=
  (code + run.offset).toNat

/-- What the first run leads to is not in the second one: it lies before it or behind it, or the
second run skips every other code point and what the first one leads to is among those skipped. -/
def avoids (run other : CaseRun) : Bool :=
  Nat.blt (run.lead run.last) other.first || Nat.blt other.last (run.lead run.first) ||
    ((run.first == run.last || run.step == 2) && other.step == 2 &&
      (run.lead run.first + other.first) % 2 == 1)

/-- A run that avoids another one leads to code points that the other one does not cover. -/
theorem not_covers_lead {run other : CaseRun} (h : run.avoids other = true) {code : Nat}
    (hc : run.covers code = true) (pos : 0 < run.first + run.offset) :
    other.covers (run.lead code) = false := by
  simp only [covers, Bool.and_eq_true, decide_eq_true_eq, beq_iff_eq] at hc
  obtain ⟨⟨hfirst, hlast⟩, hstep⟩ := hc
  simp only [avoids, Nat.blt_eq, Bool.or_eq_true, Bool.and_eq_true, beq_iff_eq] at h
  refine Bool.eq_false_iff.2 fun covered => ?_
  simp only [covers, Bool.and_eq_true, decide_eq_true_eq, beq_iff_eq] at covered
  obtain ⟨⟨ofirst, olast⟩, ostep⟩ := covered
  unfold lead at *
  rcases h with (before | behind) | ⟨⟨single | two, otwo⟩, odd⟩
  · omega
  · omega
  · rw [otwo] at ostep
    omega
  · rw [two] at hstep
    rw [otwo] at ostep
    omega

end CaseRun

/-- No run of the table leads to a code point of a run. -/
theorem avoids_of_mem_lowercaseRuns {run other : CaseRun} (hrun : run ∈ lowercaseRuns)
    (hother : other ∈ lowercaseRuns) : run.avoids other = true := by
  have apart : (lowercaseRuns.all fun run => lowercaseRuns.all run.avoids) = true := by
    decide +kernel
  exact List.all_eq_true.1 (List.all_eq_true.1 apart run hrun) other hother

/-- No run of the table leads to the dotted capital I, which has a form of its own. -/
theorem avoids_dottedI {run : CaseRun} (hrun : run ∈ lowercaseRuns) :
    run.avoids ⟨0x130, 0x130, 1, 0⟩ = true := by
  have apart : (lowercaseRuns.all fun run => run.avoids ⟨0x130, 0x130, 1, 0⟩) = true := by
    decide +kernel
  exact List.all_eq_true.1 apart run hrun

/-! ## Lowercase forms are final -/

section

variable {c d : Char}

/-- A character that no run covers is its own lowercase form, the dotted capital I aside. -/
theorem lowerChar_of_uncovered (h : ∀ run ∈ lowercaseRuns, run.covers c.toNat = false)
    (hI : c ≠ 'İ') : lowerChar c = [c] := by
  by_cases ascii : c.toNat < 128
  · -- The first run of the table holds the capital letters of ASCII.
    have capitals : (⟨0x41, 0x5A, 1, 32⟩ : CaseRun) ∈ lowercaseRuns := List.mem_cons_self
    have uncovered := h _ capitals
    rw [lowerChar_of_lt ascii, toLower_of_not_capital]
    rintro ⟨ge, le⟩
    simp [CaseRun.covers, ge, le, Nat.mod_one] at uncovered
  · have missing : lowercaseRuns.find? (·.covers c.toNat) = none :=
      List.find?_eq_none.2 fun run hrun => by simp [h run hrun]
    rw [lowerChar, if_neg ascii, if_neg hI, missing]

/-- A small form of an ASCII character is its own form. -/
theorem lowerChar_toLower (hc : c.toNat < 128) : lowerChar c.toLower = [c.toLower] := by
  by_cases capital : 65 ≤ c.toNat ∧ c.toNat ≤ 90
  · exact of_capital (P := fun c => lowerChar c.toLower = [c.toLower]) (by decide) capital
  · have same := toLower_of_not_capital capital
    rw [same, lowerChar_of_lt hc, same]

/-- What a run leads to is its own form. -/
theorem lowerChar_ofNat_lead {run : CaseRun} (hrun : run ∈ lowercaseRuns) {code : Nat}
    (covered : run.covers code = true) :
    lowerChar (Char.ofNat (run.lead code)) = [Char.ofNat (run.lead code)] := by
  have high := le_of_mem_lowercaseRuns run hrun
  rcases toNat_ofNat (run.lead code) with kept | replaced
  · have uncovered (other : CaseRun) (h : run.avoids other = true) :
        other.covers (Char.ofNat (run.lead code)).toNat = false := by
      rw [kept]
      exact CaseRun.not_covers_lead h covered (by omega)
    refine lowerChar_of_uncovered (fun other hother => ?_) fun dotted => ?_
    · exact uncovered other (avoids_of_mem_lowercaseRuns hrun hother)
    · have lone := uncovered _ (avoids_dottedI hrun)
      rw [dotted] at lone
      exact absurd lone (by decide)
  · -- A code point of no character stands for the null character.
    have null : Char.ofNat (run.lead code) = '\x00' := Char.toNat_inj.1 replaced
    rw [null]
    decide

/-- A character in the form of a character is its own form. -/
theorem lowerChar_of_mem_lowerChar (h : d ∈ lowerChar c) : lowerChar d = [d] := by
  unfold lowerChar at h
  split at h
  · rename_i ascii
    rw [List.mem_singleton.1 h]
    exact lowerChar_toLower ascii
  split at h
  · simp only [List.mem_cons, List.not_mem_nil, or_false] at h
    rcases h with rfl | rfl <;> decide +kernel
  split at h
  · rename_i run found
    rw [List.mem_singleton.1 h]
    have covered := List.find?_some found
    exact lowerChar_ofNat_lead (List.mem_of_find?_eq_some found) covered
  · rename_i ascii dotted _ missing
    rw [List.mem_singleton.1 h, lowerChar, if_neg ascii, if_neg dotted, missing]

/-- The same where the neighbours count: both small sigmas are their own forms. -/
theorem lowerChar_of_mem_lowerAt {before after : List Char} (h : d ∈ lowerAt before c after) :
    lowerChar d = [d] := by
  unfold lowerAt at h
  split at h
  · split at h
    · rw [List.mem_singleton.1 h]
      decide +kernel
    · rw [List.mem_singleton.1 h]
      decide +kernel
  · exact lowerChar_of_mem_lowerChar h

/-- Every character of a lowercase form is its own form. -/
theorem lowerChar_of_mem_lowerAfter {before text : List Char} (h : d ∈ lowerAfter before text) :
    lowerChar d = [d] := by
  induction text generalizing before with
  | nil => cases h
  | cons c text ih =>
    rcases List.mem_append.1 h with here | later
    · exact lowerChar_of_mem_lowerAt here
    · exact ih later

/-- A text of characters that are their own forms is its own lowercase form. -/
theorem lowerAfter_of_final {text : List Char} (h : ∀ c ∈ text, lowerChar c = [c])
    (before : List Char) : lowerAfter before text = text := by
  induction text generalizing before with
  | nil => rfl
  | cons c text ih =>
    have here : lowerChar c = [c] := h c List.mem_cons_self
    have ne : c ≠ 'Σ' := by
      rintro rfl
      exact absurd here (by decide +kernel)
    rw [lowerAfter, lowerAt_of_ne ne, here, ih fun d hd => h d (List.mem_cons_of_mem c hd)]
    rfl

/-- Lowercasing a lowercase text changes nothing. -/
theorem lowercase_lowercase (s : String) : lowercase (lowercase s) = lowercase s := by
  have final : lowerAfter [] (lowercase s).toList = (lowercase s).toList :=
    lowerAfter_of_final (fun c hc => lowerChar_of_mem_lowerAfter (String.toList_ofList ▸ hc)) []
  rw [lowercase, final, String.ofList_toList]

end

/-! ## Folding first -/

/-- The ranges beyond ASCII do not matter to an ASCII character. -/
theorem inRanges_take {ranges : List (Nat × Nat)} (count : Nat)
    (high : ∀ r ∈ ranges.drop count, 128 ≤ r.1) {c : Char} (hc : c.toNat < 128) :
    inRanges (ranges.take count) c = inRanges ranges c := by
  have beyond : inRanges (ranges.drop count) c = false := by
    refine List.any_eq_false.2 fun r hr => ?_
    have start := high r hr
    simp only [Bool.and_eq_true, decide_eq_true_eq, not_and]
    omega
  have split : inRanges ranges c =
      (inRanges (ranges.take count) c || inRanges (ranges.drop count) c) := by
    unfold inRanges
    rw [← List.any_append, List.take_append_drop]
  rw [split, beyond, Bool.or_false]

/-- A class of characters does not tell a character from its folded form if both forms of each
ASCII letter belong to it or neither does. The ranges within ASCII are the first ones. -/
theorem inRanges_toLower {ranges : List (Nat × Nat)} (count : Nat)
    (high : ∀ r ∈ ranges.drop count, 128 ≤ r.1)
    (alike : ∀ code ∈ List.range' 65 26, (Char.ofNat code).toLower.toNat < 128 ∧
      inRanges (ranges.take count) (Char.ofNat code).toLower =
        inRanges (ranges.take count) (Char.ofNat code)) (c : Char) :
    inRanges ranges c.toLower = inRanges ranges c := by
  by_cases capital : 65 ≤ c.toNat ∧ c.toNat ≤ 90
  · obtain ⟨small, same⟩ := of_capital (P := fun c => c.toLower.toNat < 128 ∧
      inRanges (ranges.take count) c.toLower = inRanges (ranges.take count) c) alike capital
    rwa [inRanges_take count high small, inRanges_take count high (by omega)] at same
  · rw [toLower_of_not_capital capital]

/-- Folding does not change which neighbour is found, nor whether it is cased. -/
theorem startsCased_map_toLower (text : List Char) :
    startsCased (text.map Char.toLower) = startsCased text := by
  have skipped : ∀ c, inRanges caseIgnorableRanges c.toLower = inRanges caseIgnorableRanges c :=
    inRanges_toLower 5 (by decide +kernel) (by decide)
  have cased : ∀ c, inRanges casedRanges c.toLower = inRanges casedRanges c :=
    inRanges_toLower 2 (by decide +kernel) (by decide)
  induction text with
  | nil => rfl
  | cons c text ih => simp only [List.map_cons, startsCased, skipped, cased, ih]

/-- A character has the form of its folded one. -/
theorem lowerAt_toLower (before : List Char) (c : Char) (after : List Char) :
    lowerAt (before.map Char.toLower) c.toLower (after.map Char.toLower) =
      lowerAt before c after := by
  by_cases capital : 65 ≤ c.toNat ∧ c.toNat ≤ 90
  · -- A capital letter of ASCII has the same form as its small one, and neither is a sigma.
    obtain ⟨small, ne⟩ : c.toLower ≠ 'Σ' ∧ c ≠ 'Σ' :=
      of_capital (P := fun c => c.toLower ≠ 'Σ' ∧ c ≠ 'Σ') (by decide) capital
    have ascii : c.toNat < 128 := by omega
    rw [lowerAt_of_ne small, lowerAt_of_ne ne, lowerChar_toLower ascii, lowerChar_of_lt ascii]
  · rw [toLower_of_not_capital capital]
    simp only [lowerAt, startsCased_map_toLower]

/-- A folded text has the lowercase form of the text. -/
theorem lowerAfter_map_toLower (before text : List Char) :
    lowerAfter (before.map Char.toLower) (text.map Char.toLower) = lowerAfter before text := by
  induction text generalizing before with
  | nil => rfl
  | cons c text ih =>
    have later := ih (c :: before)
    rw [List.map_cons] at later
    rw [List.map_cons, lowerAfter, lowerAfter, lowerAt_toLower, later]

/-- Texts that are equal but for the case of ASCII letters have one lowercase form. -/
theorem lowercase_eq_of_equalsIgnoringCase {s t : String} (h : equalsIgnoringCase s t = true) :
    lowercase s = lowercase t := by
  have folded : s.toList.map Char.toLower = t.toList.map Char.toLower := eq_of_beq h
  have hs := lowerAfter_map_toLower [] s.toList
  have ht := lowerAfter_map_toLower [] t.toList
  rw [lowercase, lowercase, ← hs, ← ht, folded]

/-- Whether lowercasing changes no letters of a text but `A` to `Z`. -/
def onlyAsciiCapitals (s : String) : Bool :=
  equalsIgnoringCase s (lowercase s)

/-- A text is equal to a lowercase form but for ASCII case exactly if it has that form and no
capital letters but ASCII ones. -/
theorem equalsIgnoringCase_lowercase_iff {s t : String} :
    equalsIgnoringCase s (lowercase t) = true ↔
      lowercase s = lowercase t ∧ onlyAsciiCapitals s = true := by
  constructor
  · intro h
    have same : lowercase s = lowercase t := by
      rw [lowercase_eq_of_equalsIgnoringCase h, lowercase_lowercase]
    refine ⟨same, ?_⟩
    rw [onlyAsciiCapitals, same]
    exact h
  · rintro ⟨same, ascii⟩
    rw [← same]
    exact ascii

end SpecBundle.Text
