import SpecBundle.SavedQuery.Condition

/-!
# Relative dates in conditions

An author may write a relative date as a number or as a date of some unit and offset. What a number
means is up to the operator; of a date the operator only says whether it looks back from today, and
where it says nothing the date looks ahead. An operator that counts back by itself is therefore kept
with a number and replaced with a date: the last seven days become the next seven. For the other
operators that count days the two spellings are compiled alike
(`Condition.compile?_number_eq_date_iff`).
-/

namespace SpecBundle

/-- The operators that count back from today. -/
def lookingBack : List String :=
  ["last-x-days", "last-x-months"]

namespace Condition

/-- The condition with another operand. -/
def withValue (c : Condition) (operand : Operand) : Condition :=
  { c with value := some operand }

section

variable (index : ChoiceIndex) (entity column : String) {c : Condition}

/-- A date is compiled to a window, whatever its unit is. -/
theorem compile?_withValue_relative (h : c.operator ∉ valuelessOperators) (date : RelativeDate) :
    (c.withValue (.relative date)).compile? index entity column =
      some (relativeWindow c.operator (Decimal.ofInt date.offset) (date.offset == 0)) := by
  unfold compile? withValue
  rw [if_neg h]

/-- With a number, an operator that takes one value is kept unless it is a bound. -/
theorem compile?_withValue_number (single : c.operator ∉ valuelessOperators ++ listOperators)
    (n : Json.Number) :
    (c.withValue (.number n)).compile? index entity column =
      some (if c.operator = "on-or-before" ∨ c.operator = "on-or-after" then
        relativeWindow c.operator n.text (isZero n) else (c.operator, .single n.text)) := by
  rw [List.mem_append, not_or] at single
  unfold compile? withValue
  simp only [if_neg single.1, if_neg single.2]
  split <;> rfl

/-- A date that is not compared as a bound lies ahead. -/
theorem relativeWindow_of_ne {operator : String} (h : operator ≠ "on-or-after") (offset : String)
    (isZero : Bool) : relativeWindow operator offset isZero = ("next-x-days", .single offset) :=
  if_neg h

/-- An operator that counts days or months is compiled alike with a number and with a date of that
offset, exactly if it does not count back from today. If it does, it is kept with the number, and
the date becomes a window of as many days to come. -/
theorem compile?_number_eq_date_iff (h : c.operator ∈ relativeOperators) (unit : String) (n : Int) :
    let number := (c.withValue (.number (.integer n))).compile? index entity column
    let date := (c.withValue (.relative ⟨unit, n⟩)).compile? index entity column
    (number = date ↔ c.operator ∉ lookingBack) ∧
      (c.operator ∈ lookingBack →
        number = some (c.operator, .single (Decimal.ofInt n)) ∧
          date = some ("next-x-days", .single (Decimal.ofInt n))) := by
  have single : ∀ operator ∈ relativeOperators,
      operator ∉ valuelessOperators ++ listOperators := by decide
  have valued : c.operator ∉ valuelessOperators := fun among =>
    single c.operator h (List.mem_append_left _ among)
  intro number date
  have hn : number = _ := compile?_withValue_number index entity column (single c.operator h) _
  have hd : date = _ := compile?_withValue_relative index entity column valued ⟨unit, n⟩
  by_cases back : c.operator ∈ lookingBack
  · -- The operator itself is what the two differ in.
    have kept : ∀ operator ∈ lookingBack, operator ≠ "on-or-before" ∧
        operator ≠ "on-or-after" ∧ operator ≠ "next-x-days" := by decide
    obtain ⟨notBefore, notAfter, notNext⟩ := kept c.operator back
    rw [if_neg (not_or.2 ⟨notBefore, notAfter⟩)] at hn
    rw [relativeWindow_of_ne notAfter] at hd
    refine ⟨iff_of_false (fun same => notNext ?_) (not_not_intro back), fun _ => ⟨hn, hd⟩⟩
    rw [hn, hd] at same
    exact congrArg Prod.fst (Option.some.inj same)
  · refine ⟨iff_of_true ?_ back, fun among => absurd among back⟩
    have others : ∀ operator ∈ relativeOperators, operator ∉ lookingBack →
        (operator = "on-or-before" ∨ operator = "on-or-after") ∨ operator = "next-x-days" := by
      decide
    rw [hn, hd]
    rcases others c.operator h back with bound | next
    · rw [if_pos bound]
      rfl
    · rw [if_neg (by rw [next]; decide), relativeWindow_of_ne (by rw [next]; decide), next]
      rfl

end

end Condition

namespace Sample

/-- A condition on a date that compares in some way with nothing yet. -/
def dateCondition (operator : String) : Condition where
  column := "ReceivedOn"
  operator := operator
  value := none
  values := []

end Sample

namespace Condition

/-- From some days ago on, and today where there are none: both spellings are compiled alike. -/
theorem compile?_number_eq_date_onOrAfter :
    "on-or-after" ∈ relativeOperators ∧
      ((Sample.dateCondition "on-or-after").withValue (.number (.integer 0))).compile? .empty
          "call" "receivedon" =
        ((Sample.dateCondition "on-or-after").withValue (.relative ⟨"weeks", 0⟩)).compile? .empty
          "call" "receivedon" ∧
      ((Sample.dateCondition "on-or-after").withValue (.number (.integer (-30)))).compile? .empty
          "call" "receivedon" =
        ((Sample.dateCondition "on-or-after").withValue (.relative ⟨"", -30⟩)).compile? .empty
          "call" "receivedon" :=
  have agree (unit : String) (n : Int) :=
    (compile?_number_eq_date_iff .empty "call" "receivedon"
      (c := Sample.dateCondition "on-or-after") (by decide) unit n).1.2 (by decide)
  ⟨by decide, agree "weeks" 0, agree "" (-30)⟩

/-- The last seven days become the next seven if the offset is written as a date. -/
theorem compile?_number_ne_date_lastDays :
    "last-x-days" ∈ relativeOperators ∧
      ((Sample.dateCondition "last-x-days").withValue (.number (.integer 7))).compile? .empty
          "call" "receivedon" = some ("last-x-days", .single "7") ∧
      ((Sample.dateCondition "last-x-days").withValue (.relative ⟨"days", 7⟩)).compile? .empty
          "call" "receivedon" = some ("next-x-days", .single "7") := by
  decide

end Condition

end SpecBundle
