import Mathlib.Data.List.Forall2
import Mathlib.Data.List.Nodup

/-!
# Lists compared entry by entry

Many lists of the library are made from others by leaving some entries out and replacing the rest.
The facts here say which entries of the two lists correspond, and when a list that is put together
from the entries of another has no entry twice.
-/

namespace SpecBundle

variable {α β γ : Type}

/-- What a partial function makes of a list corresponds, in order, to the entries that it is
defined for. -/
theorem forall₂_filterMap_filter {f : α → Option β} {p : α → Bool}
    (h : ∀ a, (f a).isSome = p a) (l : List α) :
    List.Forall₂ (fun b a => f a = some b) (l.filterMap f) (l.filter p) := by
  induction l with
  | nil => exact .nil
  | cons a l ih =>
    have defined := h a
    cases hf : f a with
    | none =>
      rw [hf, Option.isSome_none] at defined
      rw [List.filterMap_cons_none hf, List.filter_cons_of_neg (by simp [← defined])]
      exact ih
    | some b =>
      rw [hf, Option.isSome_some] at defined
      rw [List.filterMap_cons_some hf, List.filter_cons_of_pos defined.symm]
      exact .cons hf ih

/-- Where lists correspond entry by entry, every entry of the first one corresponds to some. -/
theorem exists_of_forall₂_of_mem {R : α → β → Prop} {as : List α} {bs : List β}
    (h : List.Forall₂ R as bs) : ∀ a ∈ as, ∃ b, R a b := by
  have each : List.Forall₂ (fun a _ => (∃ b, R a b) ∧ True) as bs :=
    h.imp fun _ b own => ⟨⟨b, own⟩, trivial⟩
  exact ((List.forall₂_and_left as bs).1 each).1

/-- Lists whose entries have equal images one by one have equal images. -/
theorem map_eq_map_of_forall₂ {f : α → γ} {g : β → γ} {as : List α} {bs : List β}
    (h : List.Forall₂ (fun a b => f a = g b) as bs) : as.map f = bs.map g := by
  induction h with
  | nil => rfl
  | cons same _ ih => rw [List.map_cons, List.map_cons, same, ih]

/-- Lists whose entries give the same parts one by one give the same parts. -/
theorem flatMap_eq_flatMap_of_forall₂ {f : α → List γ} {g : β → List γ} {as : List α}
    {bs : List β} (h : List.Forall₂ (fun a b => f a = g b) as bs) :
    as.flatMap f = bs.flatMap g := by
  rw [List.flatMap_def, List.flatMap_def, map_eq_map_of_forall₂ h]

/-- What is left out for want of entries, and would give nothing without them, gives the same as if
it were there. -/
theorem flatMap_block (as : List α) {block : β} {g : β → List γ}
    (silent : as = [] → g block = []) :
    (if as.isEmpty then [] else [block]).flatMap g = g block := by
  cases as with
  | nil => exact (silent rfl).symm
  | cons a as => exact List.flatMap_singleton g block

/-- Lists whose entries give the same parts one by one, in any order, give the same parts. -/
theorem flatMap_perm_of_forall₂ {f : α → List γ} {g : β → List γ} {as : List α} {bs : List β}
    (h : List.Forall₂ (fun a b => (f a).Perm (g b)) as bs) :
    (as.flatMap f).Perm (bs.flatMap g) := by
  induction h with
  | nil => exact .nil
  | cons same _ ih =>
    rw [List.flatMap_cons, List.flatMap_cons]
    exact same.append ih

/-- Two lists whose entries are related one by one when the first is brought into another order. -/
def Reordered (R : α → β → Prop) (as : List α) (bs : List β) : Prop :=
  ∃ cs, as.Perm cs ∧ List.Forall₂ R cs bs

namespace Reordered

variable {R : α → β → Prop} {as : List α} {bs : List β}

/-- There is one way to reorder no entries. -/
theorem nil : Reordered R [] [] :=
  ⟨[], .nil, .nil⟩

/-- Two entries that are related crosswise are reordered. -/
theorem swap {a a' : α} {b b' : β} (h : R a b') (h' : R a' b) : Reordered R [a, a'] [b, b'] :=
  ⟨[a', a], .swap a' a [], .cons h' (.cons h .nil)⟩

/-- Reordered lists whose related entries give the same parts, in any order, give the same parts in
some order. -/
theorem flatMap_perm (h : Reordered R as bs) {f : α → List γ} {g : β → List γ}
    (same : ∀ a b, R a b → (f a).Perm (g b)) : (as.flatMap f).Perm (bs.flatMap g) := by
  obtain ⟨cs, perm, related⟩ := h
  have parts : List.Forall₂ (fun c b => (f c).Perm (g b)) cs bs := related.imp same
  exact (perm.flatMap_right f).trans (flatMap_perm_of_forall₂ parts)

/-- Reordered lists whose related entries have equal images have the same images in some order. -/
theorem map_perm (h : Reordered R as bs) {f : α → γ} {g : β → γ}
    (same : ∀ a b, R a b → f a = g b) : (as.map f).Perm (bs.map g) := by
  obtain ⟨cs, perm, related⟩ := h
  have images : cs.map f = bs.map g := map_eq_map_of_forall₂ (related.imp same)
  rw [← images]
  exact perm.map f

/-- Of reordered lists either both are empty or neither is. -/
theorem isEmpty_eq (h : Reordered R as bs) : as.isEmpty = bs.isEmpty := by
  obtain ⟨cs, perm, related⟩ := h
  rw [perm.isEmpty_eq]
  cases related <;> rfl

/-- Reordered lists stay so when the same entries are taken from both. -/
theorem filter (h : Reordered R as bs) {p : α → Bool} {q : β → Bool}
    (same : ∀ a b, R a b → p a = q b) : Reordered R (as.filter p) (bs.filter q) := by
  obtain ⟨cs, perm, related⟩ := h
  exact ⟨cs.filter p, perm.filter p,
    List.rel_filter (fun a b hab => Bool.eq_iff_iff.1 (same a b hab)) related⟩

end Reordered

/-- Entries that are not looked for do not change what is found before them. -/
theorem find?_append_of_forall_false {p : α → Bool} (as : List α) {bs : List α}
    (h : ∀ b ∈ bs, p b = false) : (as ++ bs).find? p = as.find? p := by
  have none : bs.find? p = none := List.find?_eq_none.2 fun b hb => by simp [h b hb]
  rw [List.find?_append, none, Option.or_none]

/-- Entries of two kinds, of which none is of both, are those of either kind. -/
theorem filter_append_filter_perm {p q : α → Bool} (l : List α)
    (apart : ∀ a, ¬ (p a = true ∧ q a = true)) :
    (l.filter p ++ l.filter q).Perm (l.filter fun a => p a || q a) := by
  have first : l.filter p = (l.filter fun a => p a || q a).filter p := by
    rw [List.filter_filter]
    exact List.filter_congr fun a _ => by cases p a <;> rfl
  have second : l.filter q = (l.filter fun a => p a || q a).filter fun a => !p a := by
    rw [List.filter_filter]
    refine List.filter_congr fun a _ => ?_
    have := apart a
    cases hp : p a <;> cases hq : q a <;> simp_all
  rw [first, second]
  exact List.filter_append_perm p _

/-- In a list that has each key once, a key is found wherever it stands. -/
theorem lookup_of_mem {κ β : Type} [BEq κ] [LawfulBEq κ] {l : List (κ × β)}
    (distinct : (l.map (·.1)).Nodup) {key : κ} {b : β} (h : (key, b) ∈ l) :
    l.lookup key = some b := by
  obtain ⟨before, after, split⟩ := List.append_of_mem h
  rw [List.lookup_eq_some_iff]
  refine ⟨before, after, split, fun pair hpair => bne_iff_ne.2 fun same => ?_⟩
  rw [split, List.map_append, List.map_cons, List.nodup_append] at distinct
  exact distinct.2.2 pair.1 (List.mem_map_of_mem hpair) key List.mem_cons_self same.symm

/-- A key is found where it stands when the list is searched from its end, too. -/
theorem lookup_reverse_of_mem {κ β : Type} [BEq κ] [LawfulBEq κ] {l : List (κ × β)}
    (distinct : (l.map (·.1)).Nodup) {key : κ} {b : β} (h : (key, b) ∈ l) :
    l.reverse.lookup key = some b := by
  have apart : (l.reverse.map (·.1)).Nodup := by
    rw [List.map_reverse, List.nodup_reverse]
    exact distinct
  exact lookup_of_mem apart (List.mem_reverse.2 h)

/-- In a list that has each key once, the order of the entries does not matter. -/
theorem lookup_eq_of_perm {κ β : Type} [BEq κ] [LawfulBEq κ] {l l' : List (κ × β)}
    (distinct : (l.map (·.1)).Nodup) (perm : l.Perm l') (key : κ) :
    l.lookup key = l'.lookup key := by
  have distinct' : (l'.map (·.1)).Nodup := (perm.map _).nodup_iff.1 distinct
  refine Option.ext fun b => ?_
  have found {m : List (κ × β)} (dm : (m.map (·.1)).Nodup) :
      m.lookup key = some b ↔ (key, b) ∈ m := by
    refine ⟨fun h => ?_, lookup_of_mem dm⟩
    obtain ⟨before, after, split, -⟩ := List.lookup_eq_some_iff.1 h
    exact split ▸ List.mem_append_right before List.mem_cons_self
  exact (found distinct).trans (perm.mem_iff.trans (found distinct').symm)

/-- What is looked for is found where it is the only entry of its kind. -/
theorem find?_eq_some_of_unique {p : α → Bool} {l : List α} {a : α} (h : a ∈ l) (own : p a = true)
    (only : ∀ b ∈ l, p b = true → b = a) : l.find? p = some a := by
  cases found : l.find? p with
  | none => exact absurd own (List.find?_eq_none.1 found a h)
  | some b => rw [only b (List.mem_of_find?_eq_some found) (List.find?_some found)]

/-- In a list that has each key once, an entry is the only one of its key. -/
theorem filter_eq_singleton {κ : Type} [BEq κ] [LawfulBEq κ] {key : α → κ} {l : List α}
    (distinct : (l.map key).Nodup) {a : α} (h : a ∈ l) :
    l.filter (fun b => key b == key a) = [a] := by
  induction l with
  | nil => cases h
  | cons b l ih =>
    obtain ⟨fresh, rest⟩ := List.nodup_cons.1 distinct
    rcases List.mem_cons.1 h with rfl | later
    · have none : l.filter (fun b => key b == key a) = [] :=
        List.filter_eq_nil_iff.2 fun b hb same => fresh (eq_of_beq same ▸ List.mem_map_of_mem hb)
      rw [List.filter_cons, if_pos (beq_self_eq_true (key a)), none]
    · have other : ¬ (key b == key a) = true := fun same =>
        fresh (eq_of_beq same ▸ List.mem_map_of_mem later)
      rw [List.filter_cons, if_neg other, ih rest later]

/-- What is done one after the other succeeds exactly if both parts do. -/
theorem bind_eq_ok_iff {ε : Type} {x : Except ε α} {f : α → Except ε β} {b : β} :
    x >>= f = .ok b ↔ ∃ a, x = .ok a ∧ f a = .ok b := by
  cases x with
  | error e => exact iff_of_false (fun h => nomatch h) fun h => nomatch h.choose_spec.1
  | ok a => exact ⟨fun h => ⟨a, rfl, h⟩, fun ⟨_, same, h⟩ => Except.ok.inj same ▸ h⟩

/-- What is made of something is there exactly if that is. -/
theorem map_eq_ok_iff {ε : Type} {x : Except ε α} {f : α → β} {b : β} :
    x.map f = .ok b ↔ ∃ a, x = .ok a ∧ f a = b := by
  cases x with
  | error e => exact iff_of_false (fun h => nomatch h) fun h => nomatch h.choose_spec.1
  | ok a => exact ⟨fun h => ⟨a, rfl, Except.ok.inj h⟩, fun ⟨_, same, h⟩ =>
      Except.ok.inj same ▸ congrArg _ h⟩

/-- Where a list is mapped without an error, each entry is. -/
theorem forall₂_of_mapM_ok {ε : Type} {f : α → Except ε β} {as : List α} {bs : List β}
    (h : as.mapM f = .ok bs) : List.Forall₂ (fun a b => f a = .ok b) as bs := by
  induction as generalizing bs with
  | nil =>
    cases h
    exact .nil
  | cons a as ih =>
    rw [List.mapM_cons] at h
    obtain ⟨b, first, h⟩ := bind_eq_ok_iff.1 h
    obtain ⟨rest, others, h⟩ := bind_eq_ok_iff.1 h
    cases h
    exact .cons first (ih others)

/-- A list is mapped without an error exactly if each entry is, and its images are those of its
entries. -/
theorem mapM_eq_ok_iff {ε : Type} {f : α → Except ε β} {as : List α} {bs : List β} :
    as.mapM f = .ok bs ↔ List.Forall₂ (fun a b => f a = .ok b) as bs := by
  refine ⟨forall₂_of_mapM_ok, fun h => ?_⟩
  induction h with
  | nil => rfl
  | cons first _ ih =>
    rw [List.mapM_cons, first, ih]
    rfl

/-- A list is mapped without an error where each entry is. -/
theorem exists_mapM_ok {ε : Type} {f : α → Except ε β} {as : List α}
    (h : ∀ a ∈ as, ∃ b, f a = .ok b) : ∃ bs, as.mapM f = .ok bs := by
  induction as with
  | nil => exact ⟨[], rfl⟩
  | cons a as ih =>
    obtain ⟨b, first⟩ := h a List.mem_cons_self
    obtain ⟨bs, others⟩ := ih fun a' ha' => h a' (List.mem_cons_of_mem a ha')
    refine ⟨b :: bs, ?_⟩
    rw [List.mapM_cons, first, others]
    rfl

/-- A list is mapped up to its first error, whatever stands behind. -/
theorem mapM_append_cons_of_error {ε : Type} {f : α → Except ε β} {before : List α}
    (h : ∀ a ∈ before, ∃ b, f a = .ok b) {a : α} {e : ε} (fails : f a = .error e)
    (after : List α) : (before ++ a :: after).mapM f = .error e := by
  obtain ⟨bs, made⟩ := exists_mapM_ok h
  rw [List.mapM_append, made, List.mapM_cons, fails]
  rfl

/-- Entries are looked at without an error exactly if each of them is. -/
theorem forM_eq_ok_iff {ε : Type} {f : α → Except ε Unit} {as : List α} :
    forM as f = .ok () ↔ ∀ a ∈ as, f a = .ok () := by
  induction as with
  | nil => exact iff_of_true rfl fun a ha => absurd ha List.not_mem_nil
  | cons a as ih =>
    rw [List.forM_cons, List.forall_mem_cons, ← ih]
    cases f a with
    | error e => exact iff_of_false (fun h => nomatch h) fun h => nomatch h.1
    | ok u => exact ⟨fun h => ⟨rfl, h⟩, And.right⟩

/-- Looking at entries ends with the error of the first one that has one. -/
theorem forM_eq_error_iff {ε : Type} {f : α → Except ε Unit} {as : List α} {e : ε} :
    forM as f = .error e ↔
      ∃ before a after, as = before ++ a :: after ∧ (∀ b ∈ before, f b = .ok ()) ∧
        f a = .error e := by
  constructor
  · intro h
    induction as with
    | nil => cases h
    | cons a as ih =>
      rw [List.forM_cons] at h
      -- The first entry has the error, or it stands before the one that has.
      cases first : f a with
      | error e' =>
        rw [first] at h
        cases h
        exact ⟨[], a, as, rfl, fun b hb => absurd hb List.not_mem_nil, first⟩
      | ok u =>
        rw [first] at h
        obtain ⟨before, a', after, rfl, sound, fails⟩ := ih h
        exact ⟨a :: before, a', after, rfl, List.forall_mem_cons.2 ⟨first, sound⟩, fails⟩
  · rintro ⟨before, a, after, rfl, sound, fails⟩
    rw [List.forM_append, forM_eq_ok_iff.2 sound]
    show forM (a :: after) f = .error e
    rw [List.forM_cons, fails]
    rfl

/-- Lists that are joined by a separator in two ways: either the parts are the same, or the first
part of one goes on with the separator and with what the second part of the other one starts
with. -/
theorem append_cons_eq_append_cons_iff {sep : α} {as bs as' bs' : List α} :
    as ++ sep :: bs = as' ++ sep :: bs' ↔
      (as = as' ∧ bs = bs') ∨ (∃ xs, as' = as ++ sep :: xs ∧ bs = xs ++ sep :: bs') ∨
        ∃ xs, as = as' ++ sep :: xs ∧ bs' = xs ++ sep :: bs := by
  constructor
  · intro h
    rcases List.append_eq_append_iff.1 h with ⟨xs, rfl, split⟩ | ⟨xs, rfl, split⟩
    · cases xs with
      | nil => exact .inl ⟨(List.append_nil as).symm, (List.cons.inj split).2⟩
      | cons x xs =>
        obtain ⟨rfl, rfl⟩ := List.cons.inj split
        exact .inr (.inl ⟨xs, rfl, rfl⟩)
    · cases xs with
      | nil => exact .inl ⟨List.append_nil as', (List.cons.inj split).2.symm⟩
      | cons x xs =>
        obtain ⟨rfl, rfl⟩ := List.cons.inj split
        exact .inr (.inr ⟨xs, rfl, rfl⟩)
  · rintro (⟨rfl, rfl⟩ | ⟨xs, rfl, rfl⟩ | ⟨xs, rfl, rfl⟩)
    · rfl
    · rw [List.append_assoc, List.cons_append]
    · rw [List.append_assoc, List.cons_append]

/-- Lists that are told apart by a key of their entries have no entry twice among them exactly if
each of them has none. -/
theorem nodup_flatMap_iff_of_key {κ : Type} {f : α → List β} {key : β → κ} {name : α → κ}
    {l : List α} (hkey : ∀ a ∈ l, ∀ b ∈ f a, key b = name a) (hl : (l.map name).Nodup) :
    (l.flatMap f).Nodup ↔ ∀ a ∈ l, (f a).Nodup := by
  rw [List.nodup_flatMap, and_iff_left]
  have apart : l.Pairwise fun a a' => name a ≠ name a' := List.pairwise_map.1 hl
  refine apart.imp_of_mem ?_
  intro a a' ha ha' ne b hb hb'
  exact ne ((hkey a ha b hb).symm.trans (hkey a' ha' b hb'))

end SpecBundle
