import Mathlib.Data.List.Nodup
import Mathlib.Data.List.Perm.Subperm
import SpecBundle.Proofs.Lists
import SpecBundle.Proofs.Text.Lowercase
import SpecBundle.Relationship

/-!
# Relationships get names of their own

A relationship whose name is taken gets the first suffix `_2`, `_3`, ... that makes it free, and
taken means taken in any case of letters. `Settled` says all that the settling of one relationship
can do, and `settle_cons` that a run settles its relationships one after the other, each against
the names given before it.

The search for a suffix always ends with one. Lowercase forms of one name with different suffixes
differ (`logicalName_suffixed_inj`), and all of them differ from that of the name itself. As many
candidates as there are names taken, together with the name that started the search, are thus more
than the taken names can be, and one of the candidates is free (`exists_freeName?`).

`deriveAll_one_per_lookup` is the outcome for all tables: one relationship for each generated
lookup, in order, and no two with one name.
-/

namespace SpecBundle

/-- Whether a column is a lookup to a table that is no built-in principal. -/
def Column.isGeneratedLookup (c : Column) : Bool :=
  match c.kind with
  | .lookup target => !isBuiltinPrincipal target
  | _ => false

/-- The lookups that are generated, each with its table, in the order of tables and columns. -/
def generatedLookups (tables : List Table) : List (Table × Column) :=
  tables.flatMap fun t => (t.columns.filter (·.isGeneratedLookup)).map fun c => (t, c)

/-- A generated lookup is one of a column of one of the tables. -/
theorem mem_generatedLookups {tables : List Table} {t : Table} {c : Column} :
    (t, c) ∈ generatedLookups tables ↔
      t ∈ tables ∧ c ∈ t.columns ∧ c.isGeneratedLookup = true := by
  simp [generatedLookups]

namespace Relationship

/-! ## Suffixed names in lowercase -/

/-- The lowercase form of a suffixed name is a part without regard to the suffix and its digits. -/
theorem logicalName_suffixed (base : String) (n : Nat) :
    logicalName (suffixed base n) =
      String.ofList (Text.lowerAfter [] (base.toList ++ ['_'])) ++ Decimal.ofNat n := by
  have digit : ∀ c ∈ (Decimal.ofNat n).toList, c.isDigit := fun c hc =>
    Decimal.isDigit_of_mem_ofNat hc
  have same : (Decimal.ofNat n).toList.map Char.toLower = (Decimal.ofNat n).toList := by
    rw [List.map_congr_left fun c hc => Text.toLower_of_isDigit (digit c hc), List.map_id']
  rw [logicalName, suffixed,
    Text.lowercase_append_underscore base fun c hc => Text.toNat_lt_of_isDigit (digit c hc), same,
    String.ofList_toList]

/-- Different suffixes give one name different lowercase forms. -/
theorem logicalName_suffixed_inj {base : String} {m n : Nat} :
    logicalName (suffixed base m) = logicalName (suffixed base n) ↔ m = n := by
  rw [logicalName_suffixed, logicalName_suffixed, String.append_right_inj, Decimal.ofNat_inj]

/-- A suffixed name is longer than the name, also in lowercase. -/
theorem logicalName_suffixed_ne (base : String) (n : Nat) :
    logicalName (suffixed base n) ≠ logicalName base := by
  intro h
  have chars := congrArg (fun s => s.toList.length) h
  rw [logicalName_suffixed, logicalName, Text.lowercase] at chars
  simp only [String.toList_append, String.toList_ofList, List.length_append,
    Text.length_lowerAfter_underscore] at chars
  omega

/-! ## The search for a free suffix -/

/-- What is found is the first suffix from `n` on that makes the name free. -/
theorem freeName?_eq_some {taken : List String} {base unique : String} {tries n : Nat}
    (h : freeName? taken base tries n = some unique) :
    ∃ k, n ≤ k ∧ k < n + tries ∧ unique = suffixed base k ∧
      logicalName (suffixed base k) ∉ taken ∧
      ∀ j, n ≤ j → j < k → logicalName (suffixed base j) ∈ taken := by
  induction tries generalizing n with
  | zero => simp [freeName?] at h
  | succ tries ih =>
    rw [freeName?] at h
    split at h
    · rename_i used
      obtain ⟨k, hnk, hk, rfl, free, least⟩ := ih h
      refine ⟨k, by omega, by omega, rfl, free, fun j hnj hjk => ?_⟩
      rcases Nat.eq_or_lt_of_le hnj with rfl | hlt
      · exact used
      · exact least j hlt hjk
    · rename_i free
      cases h
      exact ⟨n, Nat.le_refl n, by omega, rfl, free, fun j hnj hjn => by omega⟩

/-- Where nothing is found, every suffix that was tried is taken. -/
theorem mem_of_freeName?_eq_none {taken : List String} {base : String} {tries n : Nat}
    (h : freeName? taken base tries n = none) {k : Nat} (hk : k < tries) :
    logicalName (suffixed base (n + k)) ∈ taken := by
  induction tries generalizing n k with
  | zero => omega
  | succ tries ih =>
    rw [freeName?] at h
    split at h
    · rename_i used
      cases k with
      | zero => exact used
      | succ k =>
        have next := ih h (k := k) (by omega)
        rwa [show n + 1 + k = n + (k + 1) by omega] at next
    · cases h

/-- As many tries as there are names taken find a suffix for a name that is taken itself. -/
theorem exists_freeName? {taken : List String} {base : String} (h : logicalName base ∈ taken)
    (n : Nat) : ∃ unique, freeName? taken base taken.length n = some unique := by
  by_contra missing
  have tried : freeName? taken base taken.length n = none :=
    Option.eq_none_iff_forall_ne_some.2 fun unique found => missing ⟨unique, found⟩
  -- The name and the candidates are distinct and all taken, but one more than the taken names.
  have distinct : (logicalName base ::
      (List.range taken.length).map fun k => logicalName (suffixed base (n + k))).Nodup := by
    refine List.nodup_cons.2 ⟨fun hmem => ?_, List.Nodup.map (fun j k hjk => ?_) List.nodup_range⟩
    · obtain ⟨k, -, hk⟩ := List.mem_map.1 hmem
      exact logicalName_suffixed_ne base _ hk
    · have shifted : n + j = n + k := logicalName_suffixed_inj.1 hjk
      omega
  have all_taken : (logicalName base ::
      (List.range taken.length).map fun k => logicalName (suffixed base (n + k))) ⊆ taken := by
    refine List.cons_subset.2 ⟨h, fun name hname => ?_⟩
    obtain ⟨k, hk, rfl⟩ := List.mem_map.1 hname
    exact mem_of_freeName?_eq_none tried (List.mem_range.1 hk)
  have length := (List.subperm_of_subset distinct all_taken).length_le
  rw [List.length_cons, List.length_map, List.length_range] at length
  omega

/-! ## One relationship -/

/-- What the settling of a relationship of some column can give, where `taken` holds the names
given before. -/
inductive Settled (taken : List String) (r : Relationship) (column : String) :
    Relationship × Option Diagnostic → Prop where
  /-- A name that is free is kept. -/
  | kept (free : logicalName r.name ∉ taken) : Settled taken r column (r, none)
  /-- A name that is taken gets the first suffix that makes it free, and a record. -/
  | renamed (n : Nat) (two_le : 2 ≤ n) (le : n ≤ taken.length + 1)
      (used : logicalName r.name ∈ taken) (free : logicalName (suffixed r.name n) ∉ taken)
      (least : ∀ m, 2 ≤ m → m < n → logicalName (suffixed r.name m) ∈ taken) :
      Settled taken r column ({ r with name := suffixed r.name n },
        some (r.renameRecord column (suffixed r.name n)))

/-- A relationship is settled without regard to those behind it, and these with its name among those
taken. -/
theorem exists_settled (taken : List String) (r : Relationship) (column : String) :
    ∃ out, Settled taken r column out ∧ ∀ rest,
      settle taken ((r, column) :: rest) =
        out :: settle (logicalName out.1.name :: taken) rest := by
  by_cases used : logicalName r.name ∈ taken
  · obtain ⟨unique, found⟩ := exists_freeName? used 2
    obtain ⟨n, two_le, hn, rfl, free, least⟩ := freeName?_eq_some found
    refine ⟨_, .renamed n two_le (by omega) used free least, fun rest => ?_⟩
    rw [settle, if_pos used, found, Option.getD_some]
  · exact ⟨_, .kept used, fun rest => by rw [settle, if_neg used]⟩

/-- The first relationship is settled, and the others with its name among those taken. -/
theorem settle_cons (taken : List String) (r : Relationship) (column : String)
    (rest : List (Relationship × String)) :
    ∃ out, Settled taken r column out ∧
      settle taken ((r, column) :: rest) =
        out :: settle (logicalName out.1.name :: taken) rest := by
  obtain ⟨out, settled, hcons⟩ := exists_settled taken r column
  exact ⟨out, settled, hcons rest⟩

/-- A settled name was free. -/
theorem Settled.free {taken : List String} {r : Relationship} {column : String}
    {out : Relationship × Option Diagnostic} (h : Settled taken r column out) :
    logicalName out.1.name ∉ taken := by
  cases h with
  | kept free => exact free
  | renamed n two_le le used free least => exact free

/-- A relationship with the same ends as another, named like it up to a suffix. -/
structure DerivedFrom (base r : Relationship) : Prop where
  /-- The lookup's table is the same. -/
  referencingEntity : r.referencingEntity = base.referencingEntity
  /-- The table that the lookup points to is the same. -/
  referencedEntity : r.referencedEntity = base.referencedEntity
  /-- The lookup is the same. -/
  referencingAttribute : r.referencingAttribute = base.referencingAttribute
  /-- The name is the same, or has a suffix. -/
  name : r.name = base.name ∨ ∃ n, 2 ≤ n ∧ r.name = suffixed base.name n

/-- Settling changes nothing but the name. -/
theorem Settled.derivedFrom {taken : List String} {r : Relationship} {column : String}
    {out : Relationship × Option Diagnostic} (h : Settled taken r column out) :
    DerivedFrom r out.1 := by
  cases h with
  | kept free => exact ⟨rfl, rfl, rfl, .inl rfl⟩
  | renamed n two_le le used free least => exact ⟨rfl, rfl, rfl, .inr ⟨n, two_le, rfl⟩⟩

/-! ## All relationships -/

/-- The names of settled relationships in lowercase. -/
def givenNames (settled : List (Relationship × Option Diagnostic)) : List String :=
  settled.map fun out => logicalName out.1.name

/-- Candidates behind others are settled against the names that these were given. -/
theorem settle_append (taken : List String) (before rest : List (Relationship × String)) :
    settle taken (before ++ rest) = settle taken before ++
      settle ((givenNames (settle taken before)).reverse ++ taken) rest := by
  induction before generalizing taken with
  | nil => rfl
  | cons candidate before ih =>
    obtain ⟨out, -, hcons⟩ := exists_settled taken candidate.1 candidate.2
    rw [List.cons_append, hcons, hcons, ih, givenNames, givenNames, List.map_cons,
      List.reverse_cons, List.append_assoc, List.singleton_append, List.cons_append]

/-- No settled name was taken at the start. -/
theorem logicalName_not_mem_of_mem_settle {taken : List String}
    {candidates : List (Relationship × String)} {out : Relationship × Option Diagnostic}
    (h : out ∈ settle taken candidates) : logicalName out.1.name ∉ taken := by
  induction candidates generalizing taken with
  | nil => cases h
  | cons candidate rest ih =>
    obtain ⟨first, settled, hcons⟩ := settle_cons taken candidate.1 candidate.2 rest
    rw [hcons] at h
    rcases List.mem_cons.1 h with rfl | h
    · exact settled.free
    · exact fun hmem => ih h (List.mem_cons_of_mem _ hmem)

/-- Settled names differ from each other in lowercase. -/
theorem nodup_logicalName_settle (taken : List String)
    (candidates : List (Relationship × String)) :
    ((settle taken candidates).map fun out => logicalName out.1.name).Nodup := by
  induction candidates generalizing taken with
  | nil => exact List.nodup_nil
  | cons candidate rest ih =>
    obtain ⟨first, -, hcons⟩ := settle_cons taken candidate.1 candidate.2 rest
    rw [hcons, List.map_cons, List.nodup_cons]
    refine ⟨fun hmem => ?_, ih _⟩
    obtain ⟨out, hout, same⟩ := List.mem_map.1 hmem
    exact logicalName_not_mem_of_mem_settle hout (same ▸ List.mem_cons_self)

/-- Whatever the candidates stand for one by one, the settled relationships are derived from
relationships that stand for it. -/
theorem forall₂_settle {α : Type} {Stands : Relationship → α → Prop}
    {candidates : List (Relationship × String)} {xs : List α}
    (h : List.Forall₂ (fun candidate x => Stands candidate.1 x) candidates xs)
    (taken : List String) :
    List.Forall₂ (fun out x => ∃ base, Stands base x ∧ DerivedFrom base out.1)
      (settle taken candidates) xs := by
  induction h generalizing taken with
  | nil => exact .nil
  | cons stands _ ih =>
    obtain ⟨first, settled, hcons⟩ := settle_cons taken _ _ _
    rw [hcons]
    exact .cons ⟨_, stands, settled.derivedFrom⟩ (ih _)

/-! ## The relationships of all tables -/

/-- A column defines a relationship exactly if it is a generated lookup. -/
theorem isSome_ofColumn? (namePrefix : String) (t : Table) (c : Column) :
    (ofColumn? namePrefix t c).isSome = c.isGeneratedLookup := by
  unfold ofColumn? Column.lookupTarget? Column.isGeneratedLookup
  cases c.kind with
  | lookup target => cases h : isBuiltinPrincipal target <;> simp [h]
  | _ => rfl

/-- The candidates stand for the generated lookups. -/
theorem forall₂_candidates (namePrefix : String) (tables : List Table) :
    List.Forall₂ (fun candidate tc => ofColumn? namePrefix tc.1 tc.2 = some candidate.1)
      (candidates namePrefix tables) (generatedLookups tables) := by
  induction tables with
  | nil => exact .nil
  | cons t tables ih =>
    have generated (c : Column) :
        ((ofColumn? namePrefix t c).map fun r => (r, c.schemaName)).isSome =
          c.isGeneratedLookup := by
      rw [Option.isSome_map, isSome_ofColumn?]
    rw [candidates, generatedLookups, List.flatMap_cons, List.flatMap_cons]
    refine List.rel_append (List.forall₂_map_right_iff.2 ?_) ih
    refine (forall₂_filterMap_filter generated t.columns).imp fun candidate c h => ?_
    obtain ⟨r, hr, rfl⟩ := Option.map_eq_some_iff.1 h
    exact hr

/-- The relationships are one for each generated lookup, in the order of tables and columns, with
the ends that the lookup defines, and their names differ from each other in lowercase. -/
theorem deriveAll_one_per_lookup (namePrefix : String) (tables : List Table) :
    List.Forall₂
        (fun r tc => ∃ base, ofColumn? namePrefix tc.1 tc.2 = some base ∧ DerivedFrom base r)
        (deriveAll namePrefix tables) (generatedLookups tables) ∧
      ((deriveAll namePrefix tables).map fun r => logicalName r.name).Nodup := by
  unfold deriveAll settleAll
  refine ⟨List.forall₂_map_left_iff.2 (forall₂_settle (forall₂_candidates namePrefix tables) []),
    ?_⟩
  rw [List.map_map]
  exact nodup_logicalName_settle [] _

end Relationship

end SpecBundle
