import SpecBundle.Proofs.FileTree.Listing
import SpecBundle.Proofs.Path.Names
import SpecBundle.Proofs.Text.Utf8
import SpecBundle.Spec.SpecTree

/-!
# Reading specifications

What is read is looked at in a fixed order: the choices, the tables by the names of their files,
whether there is a table at all, the environment variables, and the views and forms by the names of
their files (`SpecTree.items`). Each of these items is sound or fails in one way, which is said of
the bytes of its file. Reading succeeds exactly if all items are sound, and its error is otherwise
that of the first one that is not (`DataModel.read_or_first_failure`).
-/

namespace SpecBundle

open Json

/-! ## Files of views -/

/-- A file of views as it is written. -/
structure WrittenViews where
  /-- The table of the views that name none. -/
  entity : String
  /-- The views. -/
  views : List View

/-- Reads a file of views as it is written. -/
def WrittenViews.ofJson? : Decoder WrittenViews := fun v => do
  let r ← v.record? [("entity", .defaulted), ("views", .defaulted)]
  return ⟨← r.getD? "entity" text? "", ← r.getD? "views" (list? View.ofJson?) []⟩

/-- The views of a file. A view whose table is empty takes that of the file. -/
def WrittenViews.owned (file : WrittenViews) : List View :=
  file.views.map fun view => if view.entity = "" then { view with entity := file.entity } else view

/-- The views of a file are those that are written in it. -/
theorem viewsFile?_eq (v : Located) : viewsFile? v = (WrittenViews.ofJson? v).map (·.owned) := by
  unfold viewsFile? WrittenViews.ofJson?
  cases v.record? [("entity", .defaulted), ("views", .defaulted)] with
  | none => rfl
  | some r =>
    simp only [bind, pure, Option.bind_some]
    cases r.getD? "entity" text? "" with
    | none => rfl
    | some entity =>
      cases r.getD? "views" (list? View.ofJson?) [] with
      | none => rfl
      | some views => simp [WrittenViews.owned]

namespace SpecTree

/-! ## One file -/

section File

variable {α β : Type} {t : FileTree} {decode : Decoder α} {path : String}

/-- A file holds something: its bytes spell a text, perhaps behind a byte order mark, and the text
is a JSON value of the shape that is expected. -/
def Holds (t : FileTree) (decode : Decoder α) (path : String) (a : α) : Prop :=
  ∃ bytes text value, t.read path = .ok bytes ∧ Utf8.Spells bytes.toList text ∧
    Value.parse? text = some value ∧ decode ⟨value, 0⟩ = some a

/-- What is wrong with a file that holds nothing of the shape that is expected. -/
inductive Fails (t : FileTree) (decode : Decoder α) (path : String) : BuildError → Prop
  /-- It cannot be read. -/
  | unreadable {cause : IoError} (refused : t.read path = .error cause) :
    Fails t decode path (.unreadableSpec path cause)
  /-- Its bytes spell no text. -/
  | notText {bytes : ByteArray} (read : t.read path = .ok bytes)
      (none : ∀ text, ¬ Utf8.Spells bytes.toList text) :
    Fails t decode path (.unreadableSpec path .invalidData)
  /-- Its text is no JSON value or one of another shape. -/
  | malformed {bytes : ByteArray} {text : String} (read : t.read path = .ok bytes)
      (spelled : Utf8.Spells bytes.toList text)
      (none : ∀ value, Value.parse? text = some value → decode ⟨value, 0⟩ = none) :
    Fails t decode path (.malformedSpec path)

/-- A file is read as what it holds, and otherwise as what is wrong with it. -/
theorem readFile_cases (t : FileTree) (decode : Decoder α) (path : String) :
    (∃ a, readFile t decode path = .ok a ∧ Holds t decode path a) ∨
      ∃ e, readFile t decode path = .error e ∧ Fails t decode path e := by
  unfold readFile
  -- One case for each stage that can fail: the bytes, their text, and its value and shape.
  cases read : t.read path with
  | error cause => exact .inr ⟨_, rfl, .unreadable read⟩
  | ok bytes =>
    cases decoded : Utf8.strict? bytes.toList with
    | none =>
      refine .inr ⟨_, by simp only [decoded]; rfl, .notText read fun text spelled => ?_⟩
      rw [Utf8.strict?_eq_some_iff.2 spelled] at decoded
      cases decoded
    | some text =>
      have spelled := Utf8.strict?_eq_some_iff.1 decoded
      cases shaped : (Value.parse? text).bind fun value => decode ⟨value, 0⟩ with
      | none =>
        refine .inr ⟨_, by simp only [decoded, shaped]; rfl, .malformed read spelled ?_⟩
        exact Option.bind_eq_none_iff.1 shaped
      | some a =>
        obtain ⟨value, parsed, decoded'⟩ := Option.bind_eq_some_iff.1 shaped
        refine .inl ⟨a, by simp only [decoded, shaped]; rfl, ?_⟩
        exact ⟨bytes, text, value, read, spelled, parsed, decoded'⟩

/-- A file that holds something is read as that. -/
theorem Holds.readFile_eq {a : α} (h : Holds t decode path a) : readFile t decode path = .ok a := by
  obtain ⟨bytes, text, value, read, spelled, parsed, decoded⟩ := h
  unfold readFile
  simp only [read, Utf8.strict?_eq_some_iff.2 spelled, parsed, Option.bind_some, decoded]
  rfl

/-- What is wrong with a file is the error of reading it. -/
theorem Fails.readFile_eq {e : BuildError} (h : Fails t decode path e) :
    readFile t decode path = .error e := by
  unfold readFile
  cases h with
  | unreadable refused =>
    rw [refused]
    rfl
  | @notText bytes read none =>
    have undecoded : Utf8.strict? bytes.toList = .none :=
      Option.eq_none_iff_forall_not_mem.2 fun text h => none text (Utf8.strict?_eq_some_iff.1 h)
    simp only [read, undecoded]
    rfl
  | malformed read spelled none =>
    simp only [read, Utf8.strict?_eq_some_iff.2 spelled, Option.bind_eq_none_iff.2 none]
    rfl

/-- A file is read as something exactly if it holds that. -/
theorem readFile_eq_ok_iff {a : α} : readFile t decode path = .ok a ↔ Holds t decode path a := by
  refine ⟨fun h => ?_, Holds.readFile_eq⟩
  rcases readFile_cases t decode path with ⟨b, same, holds⟩ | ⟨e, other, -⟩
  · rw [h] at same
    exact Except.ok.inj same ▸ holds
  · rw [h] at other
    cases other

/-- Reading a file fails exactly with what is wrong with it. -/
theorem readFile_eq_error_iff {e : BuildError} :
    readFile t decode path = .error e ↔ Fails t decode path e := by
  refine ⟨fun h => ?_, Fails.readFile_eq⟩
  rcases readFile_cases t decode path with ⟨b, other, -⟩ | ⟨e', same, fails⟩
  · rw [h] at other
    cases other
  · rw [h] at same
    exact Except.error.inj same ▸ fails

/-- A file is read as what is made of its content if it is read as its content. -/
theorem readFile_map {decode' : Decoder β} {f : α → β} (h : ∀ v, decode' v = (decode v).map f) :
    readFile t decode' path = (readFile t decode path).map f := by
  have shaped (text : String) : ((Value.parse? text).bind fun value => decode' ⟨value, 0⟩) =
      ((Value.parse? text).bind fun value => decode ⟨value, 0⟩).map f := by
    simp only [h, Option.map_bind]
    rfl
  unfold readFile
  cases t.read path with
  | error cause => rfl
  | ok bytes =>
    cases decoded : Utf8.strict? bytes.toList with
    | none =>
      simp only [decoded]
      rfl
    | some text =>
      simp only [decoded, shaped]
      cases (Value.parse? text).bind fun value => decode ⟨value, 0⟩ <;> rfl

end File

/-! ## Whether something succeeds -/

section Outcome

variable {ε α β : Type}

/-- Nothing if something succeeds, and otherwise its error. -/
def outcome (x : Except ε α) : Except ε Unit :=
  x.map fun _ => ()

theorem outcome_eq_ok_iff {x : Except ε α} : outcome x = .ok () ↔ ∃ a, x = .ok a := by
  cases x with
  | error e => exact iff_of_false (fun h => nomatch h) fun h => nomatch h.choose_spec
  | ok a => exact iff_of_true rfl ⟨a, rfl⟩

theorem outcome_eq_error_iff {x : Except ε α} {e : ε} : outcome x = .error e ↔ x = .error e := by
  cases x with
  | error e' =>
    exact ⟨fun h => congrArg _ (Except.error.inj h), fun h => congrArg _ (Except.error.inj h)⟩
  | ok a => exact iff_of_false (fun h => nomatch h) fun h => nomatch h

/-- What is made of something does not matter. -/
theorem outcome_map (f : α → β) (x : Except ε α) : outcome (x.map f) = outcome x := by
  cases x <;> rfl

/-- What is returned after something does not matter. -/
theorem outcome_bind_pure (f : α → β) (x : Except ε α) :
    outcome (x >>= fun a => pure (f a)) = outcome x := by
  cases x <;> rfl

/-- Of what is done after something, the outcome counts only if that succeeds. -/
theorem outcome_bind {x : Except ε α} {f : α → Except ε β} {after : Except ε Unit}
    (h : ∀ a, x = .ok a → outcome (f a) = after) :
    outcome (x >>= f) = outcome x >>= fun _ => after := by
  cases x with
  | error e => rfl
  | ok a => exact h a rfl

/-- A list is mapped if each of its entries is, one after another. -/
theorem outcome_mapM (f : α → Except ε β) (as : List α) :
    outcome (as.mapM f) = forM as fun a => outcome (f a) := by
  induction as with
  | nil => rfl
  | cons a as ih =>
    rw [List.mapM_cons, List.forM_cons, ← ih]
    cases f a with
    | error e => rfl
    | ok b => cases as.mapM f <;> rfl

end Outcome

/-! ## What is looked at -/

/-- What a file is read as. -/
inductive Shape where
  /-- The global choices. -/
  | choices
  /-- A table. -/
  | table
  /-- The environment variables. -/
  | environment
  /-- Views. -/
  | views
  /-- Forms. -/
  | forms

/-- What a file of a shape holds. -/
abbrev Shape.Content : Shape → Type
  | choices => List GlobalChoice
  | table => Table
  | environment => List EnvironmentVariable
  | views => WrittenViews
  | forms => List Form

/-- Reads what a file of a shape holds. -/
def Shape.ofJson? : (shape : Shape) → Decoder shape.Content
  | choices => choicesFile?
  | table => Table.ofJson?
  | environment => variablesFile?
  | views => WrittenViews.ofJson?
  | forms => formsFile?

/-- Something that is looked at when specifications are read. -/
inductive Item where
  /-- A file that must have a shape. -/
  | file (shape : Shape) (path : String)
  /-- That there is a table in the directory of the tables. -/
  | someTable (directory : String)

namespace Item

/-- An item is as it should be. -/
def Sound (t : FileTree) : Item → Prop
  | file shape path => ∃ content, Holds t shape.ofJson? path content
  | someTable directory => filesIn t directory ≠ []

/-- An item is not as it should be, and this is the error. -/
def FailsWith (t : FileTree) : Item → BuildError → Prop
  | file shape path, e => Fails t shape.ofJson? path e
  | someTable directory, e =>
    filesIn t directory = [] ∧ e = .invalidSpec ("no table specs found under " ++ directory)

/-- Looks at an item. -/
def check (t : FileTree) : Item → Except BuildError Unit
  | file shape path => outcome (readFile t shape.ofJson? path)
  | someTable directory =>
    if filesIn t directory = [] then
      .error (.invalidSpec ("no table specs found under " ++ directory))
    else .ok ()

/-- Looking at an item succeeds exactly if it is sound. -/
theorem check_eq_ok_iff {t : FileTree} {item : Item} : item.check t = .ok () ↔ item.Sound t := by
  cases item with
  | file shape path =>
    show outcome _ = _ ↔ ∃ content, _
    simp only [outcome_eq_ok_iff, readFile_eq_ok_iff]
  | someTable directory =>
    show (if _ then _ else _) = _ ↔ filesIn t directory ≠ []
    by_cases empty : filesIn t directory = [] <;> simp [empty]

/-- Looking at an item fails exactly with what is wrong with it. -/
theorem check_eq_error_iff {t : FileTree} {item : Item} {e : BuildError} :
    item.check t = .error e ↔ item.FailsWith t e := by
  cases item with
  | file shape path => exact outcome_eq_error_iff.trans readFile_eq_error_iff
  | someTable directory =>
    show (if _ then _ else _) = _ ↔ filesIn t directory = [] ∧ _
    by_cases empty : filesIn t directory = [] <;> simp [empty, eq_comm]

end Item

/-- The item of a file that may be missing. -/
def itemIfPresent (t : FileTree) (shape : Shape) (path : String) : List Item :=
  if t.contains path then [.file shape path] else []

/-- The items of the files in a directory. -/
def itemsIn (t : FileTree) (shape : Shape) (directory : String) : List Item :=
  (filesIn t directory).map (.file shape)

/-- All that is looked at, in order. -/
def items (t : FileTree) (p : Project) : List Item :=
  itemIfPresent t .choices (choicesPath p.root) ++ itemsIn t .table (tablesDir p.root) ++
    [.someTable (tablesDir p.root)] ++ itemIfPresent t .environment (variablesPath p.root) ++
    itemsIn t .views p.viewsDir ++ itemsIn t .forms p.formsDir

/-- What is read if there is a file is looked at if there is one. -/
theorem outcome_readIfPresent {α : Type} {t : FileTree} {decode : Decoder (List α)} {path : String}
    {shape : Shape}
    (h : outcome (readFile t decode path) = outcome (readFile t shape.ofJson? path)) :
    outcome (readIfPresent t decode path) = forM (itemIfPresent t shape path) (·.check t) := by
  unfold readIfPresent itemIfPresent
  split
  · rw [h, List.forM_cons]
    cases check : Item.check t (.file shape path) <;> exact check
  · rfl

/-- The files of a directory are looked at one after another. -/
theorem outcome_readAll {α : Type} {t : FileTree} {decode : Decoder α} {directory : String}
    {shape : Shape}
    (h : ∀ path, outcome (readFile t decode path) = outcome (readFile t shape.ofJson? path)) :
    outcome (readAll t decode directory) = forM (itemsIn t shape directory) (·.check t) := by
  rw [readAll, outcome_mapM, itemsIn, List.forM_map]
  simp only [h]
  rfl

/-! ## What is read -/

/-- A file holds something, or it is missing and there is nothing. -/
def HoldsIfPresent {α : Type} (t : FileTree) (decode : Decoder (List α)) (path : String)
    (as : List α) : Prop :=
  if t.contains path then Holds t decode path as else as = []

/-- What the files of a directory hold, file by file. -/
def HoldAll {α : Type} (t : FileTree) (decode : Decoder α) (directory : String) (as : List α) :
    Prop :=
  List.Forall₂ (Holds t decode) (filesIn t directory) as

theorem readIfPresent_eq_ok_iff {α : Type} {t : FileTree} {decode : Decoder (List α)}
    {path : String} {as : List α} :
    readIfPresent t decode path = .ok as ↔ HoldsIfPresent t decode path as := by
  unfold readIfPresent HoldsIfPresent
  split
  · exact readFile_eq_ok_iff
  · exact ⟨fun h => (Except.ok.inj h).symm, fun h => congrArg _ h.symm⟩

theorem readAll_eq_ok_iff {α : Type} {t : FileTree} {decode : Decoder α} {directory : String}
    {as : List α} : readAll t decode directory = .ok as ↔ HoldAll t decode directory as := by
  unfold readAll HoldAll
  simp only [mapM_eq_ok_iff, readFile_eq_ok_iff]

/-- The views of files are those that are written in them. -/
theorem readAll_views (t : FileTree) (directory : String) :
    readAll t viewsFile? directory =
      (readAll t WrittenViews.ofJson? directory).map (List.map (·.owned)) := by
  unfold readAll
  generalize filesIn t directory = paths
  induction paths with
  | nil => rfl
  | cons path paths ih =>
    rw [List.mapM_cons, List.mapM_cons, ih, readFile_map viewsFile?_eq]
    cases readFile t WrittenViews.ofJson? path with
    | error e => rfl
    | ok file => cases paths.mapM (readFile t WrittenViews.ofJson?) <;> rfl

end SpecTree

namespace DataModel

open SpecTree

/-- A model has what the files hold, in the order of the files. -/
structure Assembles (t : FileTree) (p : Project) (m : DataModel) : Prop where
  /-- The choices are those of their file. -/
  choices : HoldsIfPresent t choicesFile? (choicesPath p.root) m.choices
  /-- Each file holds a table. -/
  tables : HoldAll t Table.ofJson? (tablesDir p.root) m.tables
  /-- There is a table. -/
  nonempty : m.tables ≠ []
  /-- The variables are those of their file. -/
  environmentVariables :
    HoldsIfPresent t variablesFile? (variablesPath p.root) m.environmentVariables
  /-- The views are those of all files. -/
  views : ∃ files, HoldAll t WrittenViews.ofJson? p.viewsDir files ∧
    m.views = files.flatMap (·.owned)
  /-- The forms are those of all files. -/
  forms : ∃ files, HoldAll t formsFile? p.formsDir files ∧ m.forms = files.flatten

/-- A model is read exactly if it has what the files hold. -/
theorem read_eq_ok_iff {t : FileTree} {p : Project} {m : DataModel} :
    DataModel.read t p = .ok m ↔ Assembles t p m := by
  unfold DataModel.read
  constructor
  · intro h
    obtain ⟨choices, hchoices, h⟩ := bind_eq_ok_iff.1 h
    obtain ⟨tables, htables, h⟩ := bind_eq_ok_iff.1 h
    split at h
    · cases h
    · next some =>
      obtain ⟨environment, henvironment, h⟩ := bind_eq_ok_iff.1 h
      obtain ⟨views, hviews, h⟩ := bind_eq_ok_iff.1 h
      obtain ⟨forms, hforms, h⟩ := bind_eq_ok_iff.1 h
      cases h
      -- The views are read with their tables, which each file of views may give.
      rw [readAll_views] at hviews
      obtain ⟨files, hfiles, rfl⟩ := map_eq_ok_iff.1 hviews
      exact ⟨readIfPresent_eq_ok_iff.1 hchoices, readAll_eq_ok_iff.1 htables,
        mt List.isEmpty_iff.2 some, readIfPresent_eq_ok_iff.1 henvironment,
        ⟨files, readAll_eq_ok_iff.1 hfiles, rfl⟩, forms, readAll_eq_ok_iff.1 hforms, rfl⟩
  · rintro ⟨choices, tables, nonempty, environment, ⟨views, hviews, owned⟩, forms, hforms, all⟩
    rw [readIfPresent_eq_ok_iff.2 choices, readAll_eq_ok_iff.2 tables,
      readIfPresent_eq_ok_iff.2 environment, readAll_views, readAll_eq_ok_iff.2 hviews,
      readAll_eq_ok_iff.2 hforms]
    show (if m.tables.isEmpty then _ else _) = _
    rw [if_neg (mt List.isEmpty_iff.1 nonempty)]
    show Except.ok { m with
      views := (views.map WrittenViews.owned).flatten, forms := forms.flatten } = _
    rw [← List.flatMap_def, ← owned, ← all]

/-- Reading specifications looks at the items one after another. -/
theorem outcome_read (t : FileTree) (p : Project) :
    outcome (DataModel.read t p) = forM (items t p) (·.check t) := by
  have choices : outcome (readIfPresent t choicesFile? (choicesPath p.root)) =
      forM (itemIfPresent t .choices (choicesPath p.root)) (·.check t) := outcome_readIfPresent rfl
  have tables : outcome (readAll t Table.ofJson? (tablesDir p.root)) =
      forM (itemsIn t .table (tablesDir p.root)) (·.check t) := outcome_readAll fun _ => rfl
  have environment : outcome (readIfPresent t variablesFile? (variablesPath p.root)) =
      forM (itemIfPresent t .environment (variablesPath p.root)) (·.check t) :=
    outcome_readIfPresent rfl
  have views : outcome (readAll t viewsFile? p.viewsDir) =
      forM (itemsIn t .views p.viewsDir) (·.check t) :=
    outcome_readAll fun path => by
      rw [readFile_map viewsFile?_eq, outcome_map]
      rfl
  have forms : outcome (readAll t formsFile? p.formsDir) =
      forM (itemsIn t .forms p.formsDir) (·.check t) := outcome_readAll fun _ => rfl
  simp only [items, List.forM_append, ← choices, ← tables, ← environment, ← views, ← forms,
    bind_assoc]
  unfold DataModel.read
  refine outcome_bind fun cs _ => outcome_bind fun ts read => ?_
  -- Each file of a table gives one, so there is no table exactly if there is no file.
  have empty : ts.isEmpty = true ↔ filesIn t (tablesDir p.root) = [] := by
    rw [List.isEmpty_iff, ← List.length_eq_zero_iff, ← (forall₂_of_mapM_ok read).length_eq,
      List.length_eq_zero_iff]
  rw [List.forM_cons, Item.check]
  by_cases none : filesIn t (tablesDir p.root) = []
  · rw [if_pos (empty.2 none), if_pos none]
    rfl
  · rw [if_neg (mt empty.1 none), if_neg none]
    exact outcome_bind fun es _ => outcome_bind fun vs _ => outcome_bind_pure _ _

/-! ## The order of files -/

/-- The files of a directory are in the order of their names, and they are those whose names end in
`.json`, behind something. -/
def ListedInOrder (t : FileTree) (directory : String) : Prop :=
  ∃ names : List String, names.Pairwise (· < ·) ∧
    filesIn t directory = names.map (Path.join directory) ∧
    ∀ name, Path.IsName name → (name ∈ names ↔ name ∈ t.names directory ∧
      t.isFile (Path.join directory name) = true ∧ ∃ stem, stem ≠ "" ∧ name = stem ++ ".json")

/-- Every directory is gone through in the order of the names in it. -/
theorem listedInOrder (t : FileTree) (directory : String) : ListedInOrder t directory := by
  refine ⟨(t.names directory).filter fun name => t.isFile (Path.join directory name) &&
      Path.extension? (Path.join directory name) == some "json", ?_, ?_, fun name h => ?_⟩
  · exact (t.pairwise_names_lt directory).filter _
  · rw [filesIn, List.filter_map]
    rfl
  · have dotless : '.' ∉ "json".toList := by decide
    have json := Path.extension?_join_eq_iff h dotless directory
    rw [List.mem_filter, Bool.and_eq_true, beq_iff_eq, json]
    simp only [String.append_assoc]
    rfl

/-- Specifications are read from a directory whatever the order in which it has its files. -/
theorem read_eq_of_sameFiles {t t' : FileTree} (same : t.SameFiles t') (p : Project) :
    DataModel.read t' p = DataModel.read t p := by
  have file {α : Type} (decode : Decoder α) : readFile t decode = readFile t' decode := by
    funext path
    unfold readFile
    rw [same.read_eq]
  have listed : filesIn t = filesIn t' := by
    funext directory
    unfold filesIn
    simp only [same.names_eq, same.isFile_eq]
  unfold DataModel.read readAll readIfPresent
  simp only [file, listed, same.contains_eq]

/-- Reading specifications gives what the files hold, the files of each directory in the order of
their names, and it succeeds exactly if there is a file of a table and all files that are looked at
are sound. Otherwise the error is that of the first item that fails, when the choices, the tables,
the presence of a table, the environment variables, the views and the forms are looked at in this
order. The order in which the tree has its files does not matter. -/
theorem read_or_first_failure (t : FileTree) (p : Project) :
    (∀ directory, ListedInOrder t directory) ∧
    (∀ m, DataModel.read t p = .ok m ↔ Assembles t p m) ∧
    ((∃ m, DataModel.read t p = .ok m) ↔ ∀ item ∈ items t p, item.Sound t) ∧
    (∀ e, DataModel.read t p = .error e ↔
      ∃ before item after, items t p = before ++ item :: after ∧
        (∀ earlier ∈ before, earlier.Sound t) ∧ item.FailsWith t e) ∧
    ∀ t', t.SameFiles t' → DataModel.read t' p = DataModel.read t p := by
  refine ⟨listedInOrder t, fun m => read_eq_ok_iff, ?_, fun e => ?_, fun t' same => ?_⟩
  · rw [← outcome_eq_ok_iff, outcome_read, forM_eq_ok_iff]
    simp only [Item.check_eq_ok_iff]
  · rw [← outcome_eq_error_iff, outcome_read, forM_eq_error_iff]
    simp only [Item.check_eq_ok_iff, Item.check_eq_error_iff]
  · exact read_eq_of_sameFiles same p

end DataModel

end SpecBundle
