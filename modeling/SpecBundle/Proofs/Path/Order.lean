import Mathlib.Data.Char
import Mathlib.Data.List.Lex
import Mathlib.Data.Prod.Lex
import SpecBundle.Path

/-!
# The order of paths

Paths are compared component by component. Two components are equal or one of them ranks before the
other, so the order is that of the lists of ranks: it is total and transitive, and paths that are
sorted by it are in order (`pairwise_mergeSort_comesBefore`).
-/

namespace SpecBundle.Path

/-- The components of a path by their ranks. -/
def ranks (cs : List Component) : List (ℕ ×ₗ List Char) :=
  cs.map fun c => toLex (rank c)

/-- Components are told apart by their ranks. -/
theorem rank_inj {a b : Component} : rank a = rank b ↔ a = b := by
  refine ⟨fun h => ?_, congrArg rank⟩
  cases a <;> cases b <;> simp_all [rank]

/-- Of lists the first entries in which they differ decide. -/
theorem cons_le_cons_iff {α : Type} [LinearOrder α] (a b : α) (as bs : List α) :
    a :: as ≤ b :: bs ↔ a < b ∨ a = b ∧ as ≤ bs := by
  rw [le_iff_lt_or_eq, le_iff_lt_or_eq, List.cons_lt_cons_iff, List.cons.injEq]
  tauto

/-- Lists of components are compared as those of their ranks. -/
theorem go_iff_ranks_le (as bs : List Component) :
    comesBefore.go as bs = true ↔ ranks as ≤ ranks bs := by
  unfold ranks
  induction as generalizing bs with
  | nil => exact iff_of_true (by rw [comesBefore.go]) (not_lt.1 (List.not_lt_nil _))
  | cons a as ih =>
    cases bs with
    | nil => exact iff_of_false Bool.false_ne_true (not_le.2 (List.nil_lt_cons _ _))
    | cons b bs =>
      rw [List.map_cons, List.map_cons, cons_le_cons_iff, ← ih, comesBefore.go]
      by_cases same : a = b
      · rw [if_pos same, same]
        simp
      · have apart : toLex (rank a) ≠ toLex (rank b) := fun h =>
          same (rank_inj.1 (toLex_inj.1 h))
        rw [if_neg same]
        simp [apart, Prod.Lex.toLex_lt_toLex]

/-- A path comes before another one if the ranks of its components do. -/
theorem comesBefore_iff (p q : String) :
    comesBefore p q = true ↔ ranks (components p) ≤ ranks (components q) :=
  go_iff_ranks_le (components p) (components q)

/-- Paths are sorted into the order in which they come before each other. -/
theorem pairwise_mergeSort_comesBefore (paths : List String) :
    (paths.mergeSort comesBefore).Pairwise fun p q => comesBefore p q = true := by
  refine List.pairwise_mergeSort (fun p q r hpq hqr => ?_) (fun p q => ?_) paths
  · rw [comesBefore_iff] at hpq hqr ⊢
    exact hpq.trans hqr
  · rw [Bool.or_eq_true, comesBefore_iff, comesBefore_iff]
    exact le_total _ _

end SpecBundle.Path
