import Mathlib.Data.List.Forall2
import SpecBundle.Json.Reader.Record

/-!
# Readers that go through a text together

Two readers are related if they read as far as each other, fail with the same fault, and give
related values. What is built alike from related readers is related: arrays by their items, records
by their fields. A reader that keeps less of a text than another one can thus be compared with it
field by field, without a look at the text (`Reader.Related.record`, `Reader.Related.run`).
-/

namespace SpecBundle.Json

namespace Reader

variable {α β γ δ : Type}

/-- What two readers make of the same place: the same fault, or related values and the same place
behind them. -/
inductive Alike (R : α → β → Prop) :
    Except Fault (α × Cursor) → Except Fault (β × Cursor) → Prop where
  /-- Both give a value. -/
  | ok {a : α} {b : β} (c : Cursor) (related : R a b) : Alike R (.ok (a, c)) (.ok (b, c))
  /-- Both fail. -/
  | error (fault : Fault) : Alike R (.error fault) (.error fault)

/-- Of values one of which is a function of the other, the places behind them are left out. -/
theorem Alike.value_eq {f : α → β} {x : Except Fault (α × Cursor)} {y : Except Fault (β × Cursor)}
    (h : Alike (fun a b => f a = b) x y) :
    (do return (← y).1 : Except Fault β) = (do return (← x).1 : Except Fault α).map f := by
  cases h with
  | ok c related => exact congrArg Except.ok related.symm
  | error fault => rfl

/-- Two readers go through every text together and give related values. -/
def Related (R : α → β → Prop) (r : Reader α) (s : Reader β) : Prop :=
  ∀ c, Alike R (r c) (s c)

namespace Related

variable {R : α → β → Prop} {S : γ → δ → Prop} {r : Reader α} {s : Reader β}

/-- A reader goes together with itself. -/
theorem refl (r : Reader α) : Related Eq r r := by
  intro c
  cases r c with
  | error fault => exact .error fault
  | ok read => exact .ok read.2 rfl

theorem pure {a : α} {b : β} (h : R a b) : Related R (Pure.pure a) (Pure.pure b) :=
  fun c => .ok c h

theorem fail (cause : FaultCause) : Related R (Reader.fail cause) (Reader.fail cause) :=
  fun _ => .error _

theorem failAhead (cause : FaultCause) :
    Related R (Reader.failAhead cause) (Reader.failAhead cause) :=
  fun _ => .error _

/-- Readers that go on together with related values go together. -/
theorem bind {f : α → Reader γ} {g : β → Reader δ} (h : Related R r s)
    (next : ∀ a b, R a b → Related S (f a) (g b)) : Related S (r >>= f) (s >>= g) := by
  intro c
  have both := h c
  simp only [Bind.bind, StateT.bind]
  generalize r c = x at both ⊢
  generalize s c = y at both ⊢
  cases both with
  | ok d related => exact next _ _ related d
  | error fault => exact .error fault

/-- Readers that start with the same reader go together if they go on so with what it gives. -/
theorem bind_same {f : α → Reader γ} {g : α → Reader δ} (r : Reader α)
    (next : ∀ a, Related S (f a) (g a)) : Related S (r >>= f) (r >>= g) :=
  (refl r).bind fun a _ same => same ▸ next a

theorem map {f : α → γ} {g : β → δ} (h : Related R r s)
    (maps : ∀ a b, R a b → S (f a) (g b)) : Related S (f <$> r) (g <$> s) := by
  rw [map_eq_pure_bind, map_eq_pure_bind]
  exact h.bind fun a b related => pure (maps a b related)

/-! ## Values of a shape -/

theorem wrongShape (expected : Shape) :
    Related R (Reader.wrongShape expected) (Reader.wrongShape expected) :=
  bind_same found fun _ => fail _

/-- Items that are read together make arrays that are read together. -/
theorem itemsFrom (h : Related R r s) (fuel : Nat) {as : List α} {bs : List β}
    (read : List.Forall₂ R as bs) :
    Related (List.Forall₂ R) (Reader.itemsFrom r fuel as) (Reader.itemsFrom s fuel bs) := by
  induction fuel generalizing as bs with
  | zero => exact failAhead _
  | succ fuel ih =>
    have empty : as.isEmpty = bs.isEmpty := by cases read <;> rfl
    unfold Reader.itemsFrom
    rw [empty]
    refine bind_same (hasNext .list bs.isEmpty) fun more => ?_
    split
    · exact h.bind fun a b related => ih (.cons related read)
    · exact bind_same listEnd fun _ => pure (List.rel_reverse read)

theorem list (h : Related R r s) :
    Related (List.Forall₂ R) (Reader.list r) (Reader.list s) := by
  refine bind_same peekVisible? fun next => ?_
  split
  · exact failAhead _
  · split
    · exact bind_same eat fun _ => bind_same bound fun n => h.itemsFrom n .nil
    · exact wrongShape _

end Related

end Reader

/-! ## Records -/

variable {α β γ δ : Type}

/-- Two fields are of the same name, may be left out together, and are read together into changes
that keep records related. -/
structure Field.Related (R : α → β → Prop) (f : Field α) (g : Field β) : Prop where
  /-- The names are the same. -/
  name : f.name = g.name
  /-- Both may be left out, or neither. -/
  isDefaulted : f.isDefaulted = g.isDefaulted
  /-- The changes keep records related. -/
  read : Reader.Related (fun u v => ∀ a b, R a b → R (u a) (v b)) f.read g.read

namespace Field.Related

variable {R : α → β → Prop} {S : γ → δ → Prop} {r : Reader γ} {s : Reader δ}

/-- Fields with the same value are related if it changes related records into related ones. -/
theorem optional {name : String} {f : Option γ → α → α} {g : Option γ → β → β} (r : Reader γ)
    (sets : ∀ u a b, R a b → R (f u a) (g u b)) :
    Field.Related R (.optional name r f) (.optional name r g) :=
  ⟨rfl, rfl, (Reader.Related.refl (Reader.optional r)).map fun u _ same => same ▸ sets u⟩

/-- Fields with related values are related if these change related records into related ones. -/
theorem defaulted {name : String} {f : γ → α → α} {g : δ → β → β} (h : Reader.Related S r s)
    (sets : ∀ u v, S u v → ∀ a b, R a b → R (f u a) (g v b)) :
    Field.Related R (.defaulted name r f) (.defaulted name s g) :=
  ⟨rfl, rfl, h.map sets⟩

/-- Among related fields those of one name are related. -/
theorem find? {fs : List (Field α)} {gs : List (Field β)} (h : List.Forall₂ (Field.Related R) fs gs)
    (key : String) :
    Option.Rel (Field.Related R) (fs.find? (·.name == key)) (gs.find? (·.name == key)) := by
  induction h with
  | nil => exact .none
  | @cons f g fs gs related _ ih =>
    rw [List.find?_cons, List.find?_cons, related.name]
    split
    · exact .some related
    · exact ih

end Field.Related

namespace Reader.Related

variable {R : α → β → Prop} {fs : List (Field α)} {gs : List (Field β)} {a : α} {b : β}

/-- Records are read together from arrays of their fields. -/
theorem fieldsInOrder (recordName : String) (count : Nat) (isFirst : Bool)
    (fields : List.Forall₂ (Field.Related R) fs gs) (h : R a b) :
    Related R (Reader.fieldsInOrder recordName count isFirst fs a)
      (Reader.fieldsInOrder recordName count isFirst gs b) := by
  induction fields generalizing isFirst a b with
  | nil => exact bind_same listEnd fun _ => pure h
  | @cons f g fs gs related rest ih =>
    refine bind_same (hasNext .list isFirst) fun more => ?_
    split
    · exact related.read.bind fun u v keeps => ih false (keeps a b h)
    · rw [related.isDefaulted, rest.length_eq]
      split
      · exact ih isFirst h
      · exact bind_same listEnd fun _ => fail _

/-- Records are read together from objects. -/
theorem fieldsByName (fields : List.Forall₂ (Field.Related R) fs gs) (fuel : Nat) (isFirst : Bool)
    (read : List String) (h : R a b) :
    Related R (Reader.fieldsByName fs fuel isFirst read a)
      (Reader.fieldsByName gs fuel isFirst read b) := by
  induction fuel generalizing isFirst read a b with
  | zero => exact failAhead _
  | succ fuel ih =>
    refine bind_same (key? isFirst) fun key => ?_
    cases key with
    | none => exact pure h
    | some key =>
      dsimp only
      -- Both look for the key among fields of the same names.
      have found := Field.Related.find? fields key
      generalize fs.find? (·.name == key) = x at found ⊢
      generalize gs.find? (·.name == key) = y at found ⊢
      cases found with
      | none =>
        exact bind_same colon fun _ => bind_same skip fun _ => ih false read h
      | some related =>
        dsimp only
        split
        · exact bind_same peekVisible? fun _ => bind_same (eatIf _) fun _ => fail _
        · exact bind_same colon fun _ =>
            related.read.bind fun u v keeps => ih false (key :: read) (keeps _ _ h)

/-- Records of related fields are read together. -/
theorem record (recordName : String) (fields : List.Forall₂ (Field.Related R) fs gs) (h : R a b) :
    Related R (Reader.record recordName fs a) (Reader.record recordName gs b) := by
  refine bind_same peekVisible? fun next => ?_
  split
  · exact failAhead _
  · split
    · rw [fields.length_eq]
      exact bind_same eat fun _ => fieldsInOrder recordName _ true fields h
    · split
      · exact bind_same eat fun _ => bind_same bound fun n => fieldsByName fields n true [] h
      · exact wrongShape _

/-- If what one reader gives is a function of what the other one gives, so it is for whole texts. -/
theorem run {f : α → β} {r : Reader α} {s : Reader β} (h : Related (fun a b => f a = b) r s)
    (text : String) : s.run text = (r.run text).map f := by
  have whole : Related (fun a b => f a = b)
      (do
        let a ← r
        if (← peekVisible?).isSome then Reader.failAhead .trailingText else return a)
      (do
        let b ← s
        if (← peekVisible?).isSome then Reader.failAhead .trailingText else return b) := by
    refine h.bind fun a b related => bind_same peekVisible? fun next => ?_
    split
    · exact failAhead _
    · exact pure related
  unfold Reader.run
  exact (whole ⟨text.toList, .start, text.length⟩).value_eq

end Reader.Related

end SpecBundle.Json
