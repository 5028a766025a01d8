import SpecBundle.Proofs.Lists
import SpecBundle.StableId

/-!
# Reading a seed off its text

The text of a seed joins its kind and its parts with colons. Where none of them has a colon the
text can be split at its colons again, so seeds without colons that have one text are equal
(`Seed.eq_of_text_eq`). Where it is known how many parts there are, the last one may have colons: it
is what follows the last of the colons that are known to stand between parts
(`Seed.eq_of_text_eq_of_length_eq`).
-/

namespace SpecBundle.Seed

/-- Neither the kind nor a part has a colon. -/
def ColonFree (seed : Seed) : Prop :=
  ∀ piece ∈ seed.kind :: seed.parts, ':' ∉ piece.toList

/-- The text is the kind and the parts with colons between them. -/
theorem text_eq_intercalate (seed : Seed) :
    seed.text = ":".intercalate (seed.kind :: seed.parts) := by
  obtain ⟨kind, parts⟩ := seed
  induction parts generalizing kind with
  | nil => exact String.intercalate_singleton.symm
  | cons part rest ih =>
    have step : text ⟨kind, part :: rest⟩ = text ⟨kind ++ ":" ++ part, rest⟩ := rfl
    rw [step, ih, String.intercalate_cons_append, String.intercalate_cons_cons]

/-- A text without colons in its pieces is split into them. -/
theorem splitOn_toList_text {seed : Seed} (h : seed.ColonFree) :
    seed.text.toList.splitOn ':' = (seed.kind :: seed.parts).map String.toList := by
  have pieces : ∀ piece ∈ (seed.kind :: seed.parts).map String.toList, ':' ∉ piece := by
    intro piece hp
    obtain ⟨s, hs, rfl⟩ := List.mem_map.1 hp
    exact h s hs
  have joined : seed.text.toList =
      [':'].intercalate ((seed.kind :: seed.parts).map String.toList) := by
    rw [text_eq_intercalate, String.toList_intercalate]
    rfl
  rw [joined, List.splitOn_intercalate ':' pieces (by simp)]

/-- A seed is its kind and its parts. -/
theorem eq_of_pieces_eq {s t : Seed} (h : s.kind :: s.parts = t.kind :: t.parts) : s = t := by
  obtain ⟨kind, parts⟩ := s
  obtain ⟨kind', parts'⟩ := t
  obtain ⟨rfl, rfl⟩ := List.cons.inj h
  rfl

/-- Seeds without colons are told apart by their texts. -/
theorem eq_of_text_eq {s t : Seed} (hs : s.ColonFree) (ht : t.ColonFree) (h : s.text = t.text) :
    s = t := by
  have pieces : (s.kind :: s.parts).map String.toList = (t.kind :: t.parts).map String.toList := by
    rw [← splitOn_toList_text hs, ← splitOn_toList_text ht, h]
  have same : s.kind :: s.parts = t.kind :: t.parts :=
    (List.map_inj_right fun _ _ => String.toList_inj.1).1 pieces
  exact eq_of_pieces_eq same

/-- Neither the kind nor a part has a colon, the last part aside. -/
def ColonFreeButLast (seed : Seed) : Prop :=
  ∀ piece ∈ seed.kind :: seed.parts.dropLast, ':' ∉ piece.toList

/-- Equally many pieces that are joined with colons are told apart by their text, if none but the
last one has a colon. -/
theorem eq_of_intercalate_eq {ps qs : List String} (length : ps.length = qs.length)
    (hp : ∀ p ∈ ps.dropLast, ':' ∉ p.toList) (hq : ∀ q ∈ qs.dropLast, ':' ∉ q.toList)
    (h : ":".intercalate ps = ":".intercalate qs) : ps = qs := by
  induction ps generalizing qs with
  | nil => exact (List.length_eq_zero_iff.1 length.symm).symm
  | cons p ps ih =>
    cases qs with
    | nil => cases length
    | cons q qs =>
      have lengths : ps.length = qs.length := Nat.succ.inj length
      cases ps with
      | nil =>
        obtain rfl := List.length_eq_zero_iff.1 lengths.symm
        rw [String.intercalate_singleton, String.intercalate_singleton] at h
        rw [h]
      | cons p' ps =>
        cases qs with
        | nil => cases lengths
        | cons q' qs =>
          rw [List.dropLast_cons_cons] at hp hq
          obtain ⟨first, others⟩ := List.forall_mem_cons.1 hp
          obtain ⟨first', others'⟩ := List.forall_mem_cons.1 hq
          rw [String.intercalate_cons_cons, String.intercalate_cons_cons] at h
          have chars := congrArg String.toList h
          simp only [String.toList_append, List.append_assoc] at chars
          -- The first colon ends both first pieces.
          rcases append_cons_eq_append_cons_iff.1 chars with
            ⟨same, rest⟩ | ⟨_, long, -⟩ | ⟨_, long, -⟩
          · rw [String.toList_inj.1 same, ih lengths others others' (String.toList_inj.1 rest)]
          · exact absurd (long ▸ List.mem_append_right _ List.mem_cons_self) first'
          · exact absurd (long ▸ List.mem_append_right _ List.mem_cons_self) first

/-- Seeds with equally many parts are told apart by their texts, if nothing but their last parts has
a colon. -/
theorem eq_of_text_eq_of_length_eq {s t : Seed} (length : s.parts.length = t.parts.length)
    (hs : s.ColonFreeButLast) (ht : t.ColonFreeButLast) (h : s.text = t.text) : s = t := by
  have butLast {seed : Seed} (free : seed.ColonFreeButLast) :
      ∀ piece ∈ (seed.kind :: seed.parts).dropLast, ':' ∉ piece.toList := by
    intro piece hp
    refine free piece ?_
    cases parts : seed.parts with
    | nil =>
      rw [parts] at hp
      cases hp
    | cons part rest => rwa [parts, List.dropLast_cons_cons] at hp
  rw [text_eq_intercalate, text_eq_intercalate] at h
  exact eq_of_pieces_eq
    (eq_of_intercalate_eq (congrArg Nat.succ length) (butLast hs) (butLast ht) h)

end SpecBundle.Seed
