import SpecBundle.Diagnostic
import SpecBundle.Error

/-!
# Outcomes

A stage gives a result or the error that stops it, and the records that it made until then. Stages
follow each other in the monad `Outcome`: the records of a second stage stand behind those of the
first, and after an error there is no second stage.

The lemmas say what one step adds to the records (`notes_bind_of_ok`, `notes_bind_of_error`) and
what a pass over a list adds (`notes_mapM_of_ok`, `notes_mapM_of_error`). A result depends on
results alone (`result_bind`, `result_mapM`), and what has been recorded stays
(`notes_prefix_bind`).
-/

namespace SpecBundle

/-- A result and the records made until it was there or failed. -/
structure Outcome (α : Type) where
  /-- The records, in order. -/
  notes : List Diagnostic
  /-- The result. -/
  result : Except BuildError α

namespace Outcome

variable {α β : Type}

/-- Makes records. -/
def record (notes : List Diagnostic) : Outcome Unit :=
  ⟨notes, .ok ()⟩

/-- Goes on with the result of a stage, unless it has none. -/
def bind (x : Outcome α) (next : α → Outcome β) : Outcome β :=
  match x.result with
  | .ok a => ⟨x.notes ++ (next a).notes, (next a).result⟩
  | .error e => ⟨x.notes, .error e⟩

instance : Monad Outcome where
  pure a := ⟨[], .ok a⟩
  bind := bind
  map f x := ⟨x.notes, x.result.map f⟩

instance : LawfulMonad Outcome := by
  refine LawfulMonad.mk' Outcome (fun x => ?_) (fun _ _ => rfl) (fun x f g => ?_) (fun _ _ => rfl)
    (fun _ _ => rfl) (fun _ _ => rfl) (fun f x => ?_)
  · obtain ⟨notes, result⟩ := x
    cases result <;> rfl
  · obtain ⟨notes, result⟩ := x
    cases result with
    | error e => rfl
    | ok a =>
      change bind ⟨_, (f a).result⟩ g = ⟨_, _⟩
      simp only [Bind.bind, bind]
      cases (f a).result with
      | error e => rfl
      | ok b => simp only [List.append_assoc]
  · obtain ⟨notes, result⟩ := x
    cases result with
    | error e => rfl
    | ok a => exact congrArg (Outcome.mk · (.ok (f a))) (List.append_nil notes)

/-! ## One step -/

@[simp] theorem notes_map (f : α → β) (x : Outcome α) : (f <$> x).notes = x.notes := rfl

@[simp] theorem result_map (f : α → β) (x : Outcome α) : (f <$> x).result = x.result.map f := rfl

@[simp] theorem notes_record_bind (notes : List Diagnostic) (next : Unit → Outcome α) :
    (record notes >>= next).notes = notes ++ (next ()).notes := rfl

@[simp] theorem result_record_bind (notes : List Diagnostic) (next : Unit → Outcome α) :
    (record notes >>= next).result = (next ()).result := rfl

section

variable {x : Outcome α} (next : α → Outcome β)

/-- The records of a stage that has a result are followed by those of the next one. -/
theorem notes_bind_of_ok {a : α} (h : x.result = .ok a) :
    (x >>= next).notes = x.notes ++ (next a).notes := by
  obtain ⟨notes, result⟩ := x
  cases h
  rfl

/-- The records of a stage that fails are the last ones. -/
theorem notes_bind_of_error {e : BuildError} (h : x.result = .error e) :
    (x >>= next).notes = x.notes := by
  obtain ⟨notes, result⟩ := x
  cases h
  rfl

/-- The result of two stages is made from their results. -/
theorem result_bind : (x >>= next).result = x.result >>= fun a => (next a).result := by
  obtain ⟨notes, result⟩ := x
  cases result <;> rfl

/-- What holds of the records of both stages holds of all. -/
theorem forall_mem_notes_bind {P : Diagnostic → Prop} (h : ∀ d ∈ x.notes, P d)
    (h' : ∀ a, ∀ d ∈ (next a).notes, P d) : ∀ d ∈ (x >>= next).notes, P d := by
  cases made : x.result with
  | error e =>
    rw [notes_bind_of_error next made]
    exact h
  | ok a =>
    rw [notes_bind_of_ok next made]
    exact List.forall_mem_append.2 ⟨h, h' a⟩

/-- What a stage has recorded stays, whatever comes next. -/
theorem notes_prefix_bind : x.notes <+: (x >>= next).notes := by
  cases h : x.result with
  | error e => exact ⟨[], by rw [notes_bind_of_error next h, List.append_nil]⟩
  | ok a =>
    rw [notes_bind_of_ok next h]
    exact List.prefix_append _ _

end

/-! ## A pass over a list -/

section

variable (f : α → Outcome β)

/-- The result of a pass is made from the results of the entries. -/
theorem result_mapM (as : List α) : (as.mapM f).result = as.mapM fun a => (f a).result := by
  induction as with
  | nil => rfl
  | cons a as ih =>
    rw [List.mapM_cons, List.mapM_cons, result_bind]
    refine congrArg ((f a).result >>= ·) (funext fun b => ?_)
    rw [result_bind, ih]
    rfl

/-- A pass over entries that have results leaves the records of each. -/
theorem notes_mapM_of_ok {as : List α} (h : ∀ a ∈ as, ∃ b, (f a).result = .ok b) :
    (as.mapM f).notes = as.flatMap fun a => (f a).notes := by
  induction as with
  | nil => rfl
  | cons a as ih =>
    obtain ⟨b, first⟩ := h a List.mem_cons_self
    rw [List.mapM_cons, notes_bind_of_ok _ first, List.flatMap_cons,
      ← ih fun a' ha' => h a' (List.mem_cons_of_mem a ha'), bind_pure_comp, notes_map]

/-- A pass leaves the records of the entries before the first that fails, and of that one. -/
theorem notes_mapM_of_error {before : List α} (h : ∀ a ∈ before, ∃ b, (f a).result = .ok b)
    {a : α} {e : BuildError} (fails : (f a).result = .error e) (after : List α) :
    ((before ++ a :: after).mapM f).notes =
      (before.flatMap fun a => (f a).notes) ++ (f a).notes := by
  induction before with
  | nil => rw [List.nil_append, List.mapM_cons, notes_bind_of_error _ fails]; rfl
  | cons b before ih =>
    obtain ⟨c, first⟩ := h b List.mem_cons_self
    rw [List.cons_append, List.mapM_cons, notes_bind_of_ok _ first, bind_pure_comp, notes_map,
      ih fun b' hb' => h b' (List.mem_cons_of_mem b hb'), List.flatMap_cons, List.append_assoc]

/-- What a pass records of its first entries, if these have results, does not depend on those
behind them. -/
theorem notes_prefix_mapM_append {before : List α} (h : ∀ a ∈ before, ∃ b, (f a).result = .ok b)
    (after : List α) :
    (before.flatMap fun a => (f a).notes) <+: ((before ++ after).mapM f).notes := by
  rw [← notes_mapM_of_ok f h, List.mapM_append]
  exact notes_prefix_bind _

/-- What holds of the records of all entries holds of those of a pass. -/
theorem forall_mem_notes_mapM {P : Diagnostic → Prop} (h : ∀ a, ∀ d ∈ (f a).notes, P d)
    (as : List α) : ∀ d ∈ (as.mapM f).notes, P d := by
  induction as with
  | nil => exact List.forall_mem_nil P
  | cons a as ih =>
    rw [List.mapM_cons]
    refine forall_mem_notes_bind _ (h a) fun b => ?_
    rw [bind_pure_comp, notes_map]
    exact ih

end

end Outcome

end SpecBundle
