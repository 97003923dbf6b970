import SchemaPlan.Proofs.Emission
import SchemaPlan.Proofs.Planning

/-!
# Two spellings of a switch

An option that is on or off is written as a bare flag or with the text `true`. Which of the
two was written can be told only by asking for the text of the option. Nothing asks that of
a switch (`ColumnDecl.Respells.isSet`, `ColumnDecl.Respells.has`), with one exception: the
text of `constrained` names the table that is referred to, and a bare `constrained` leaves
that table to be found from `on` or from the name of the column.

So a column calls for the same whichever way its switches are written
(`TableDiff.compare_respells`), and its specification can differ in the table of its foreign
key and in nothing else (`ColumnSpec.ofDecl_respells`).
-/

namespace SchemaPlan

/-! ## Columns with their switches written anew -/

namespace ColumnDecl

variable {keys : List String} {c c' : ColumnDecl} {key text : String}

/-- The options that are on or off, each by its bare flag or by its text. -/
def switches : List String :=
  ["nullable", "drop", "unsigned", "index", "unique", "primary", "constrained"]

/-- **A column is written anew**: some of its options among the given ones are bare flags in
the one column and the text `true` in the other. -/
structure Respells (keys : List String) (c c' : ColumnDecl) : Prop where
  /-- The name is the same. -/
  name_eq : c'.name = c.name
  /-- The kind is the same. -/
  kind_eq : c'.kind = c.kind
  /-- The kind is written in both or in neither. -/
  declared_eq : c'.kindDeclared = c.kindDeclared
  /-- An option is the same, or a flag that has become a text. -/
  option : ∀ key, c'.options.get? key = c.options.get? key ∨
    key ∈ keys ∧ c.options.get? key = some .flag ∧
      ∃ text, c'.options.get? key = some (.value text) ∧
        Text.equalIgnoringCase text "true" = true

/-- A flag that gets `true` for its text, in any case, is the same column in
another spelling. This is the step to which the theorem of this module applies
the rest. -/
theorem respells_withValue (flag : c.options.get? key = some .flag)
    (spelled : Text.equalIgnoringCase text "true" = true) :
    c.Respells [key] (c.withValue key text) where
  name_eq := rfl
  kind_eq := rfl
  declared_eq := rfl
  option other := by
    by_cases same : other = key
    · subst same
      exact .inr ⟨List.mem_singleton_self _, flag, text, by simp, spelled⟩
    · exact .inl (by simp [same])

namespace Respells

theorem refl (keys : List String) (c : ColumnDecl) : c.Respells keys c :=
  ⟨rfl, rfl, rfl, fun _ => .inl rfl⟩

/-- **Whether a switch is set does not depend on its spelling.** All that
planning asks of switches goes through this question, but for `constrained`. -/
theorem isSet (h : c.Respells keys c') (key : String) : c'.isSet key = c.isSet key := by
  unfold ColumnDecl.isSet
  rcases h.option key with same | ⟨-, flag, text, value, spelled⟩
  · rw [same]
  · rw [flag, value]
    exact spelled

/-- Whether an option is there does not depend on its spelling, and its list by
the next statement neither. -/
theorem has (h : c.Respells keys c') (key : String) : c'.has key = c.has key := by
  unfold ColumnDecl.has
  rcases h.option key with same | ⟨-, flag, text, value, -⟩
  · rw [same]
  · rw [flag, value]
    rfl

theorem list? (h : c.Respells keys c') (key : String) : c'.list? key = c.list? key := by
  unfold ColumnDecl.list?
  rcases h.option key with same | ⟨-, flag, text, value, -⟩
  · rw [same]
  · rw [flag, value]

/-- An option that is not one of the given has the text that it had. -/
theorem value? (h : c.Respells keys c') (other : key ∉ keys) : c'.value? key = c.value? key := by
  unfold ColumnDecl.value?
  rcases h.option key with same | ⟨mem, -⟩
  · rw [same]
  · exact absurd mem other

theorem isMarkedForDrop (h : c.Respells keys c') : c'.isMarkedForDrop = c.isMarkedForDrop :=
  h.isSet "drop"

theorem isNullable (h : c.Respells keys c') : c'.isNullable = c.isNullable :=
  h.isSet "nullable"

theorem isForeignKey (h : c.Respells keys c') : c'.isForeignKey = c.isForeignKey := by
  unfold ColumnDecl.isForeignKey
  rw [h.kind_eq, h.has, h.has, h.has]

/-- Whether a column is the key that every table gets by itself is asked by its
name, its kind and one switch, so its spelling does not count. -/
theorem isImpliedKey (h : c.Respells keys c') :
    TableDiff.isImpliedKey c' = TableDiff.isImpliedKey c := by
  unfold TableDiff.isImpliedKey isDefaultKey
  rw [h.name_eq, h.kind_eq, h.declared_eq, h.isSet]

/-- Without the mark for removal the columns still differ in spelling only. -/
theorem withoutDrop (h : c.Respells keys c') : c.withoutDrop.Respells keys c'.withoutDrop where
  name_eq := h.name_eq
  kind_eq := h.kind_eq
  declared_eq := h.declared_eq
  option key := by
    by_cases mark : key = "drop"
    · subst mark
      exact .inl (by simp)
    · simpa [mark] using h.option key

end Respells

/-- The table that the foreign key of a column refers to, if it has one. -/
def target (c : ColumnDecl) : String :=
  ((c.value? "constrained").orElse fun _ => c.value? "on").getD (ForeignKey.referencedTable c.name)

end ColumnDecl

/-! ## Their specifications -/

namespace ColumnSpec

open ColumnDecl

variable {keys : List String} {c c' : ColumnDecl} {option : String}

/-- The column with a foreign key, if it has one, to another table. -/
def retargeted (table : String) (spec : ColumnSpec) : ColumnSpec :=
  { spec with foreign := spec.foreign.map fun key => { key with table := table } }

/-- The options that are no switches are read as before, each by its own
reader; this and the next four statements go through them. -/
theorem readNumber_respells (h : c.Respells keys c') (other : option ∉ keys) (limit : Nat) :
    readNumber c' option limit = readNumber c option limit := by
  unfold readNumber
  rw [h.value? other, h.name_eq]

theorem readAction_respells (h : c.Respells keys c') (other : option ∉ keys) :
    readAction c' option = readAction c option := by
  unfold readAction
  rw [h.value? other, h.name_eq]

theorem readPrecision_respells (h : c.Respells keys c') (switch : keys ⊆ switches) :
    readPrecision c' = readPrecision c := by
  unfold readPrecision
  rw [h.kind_eq, h.has, h.has, readNumber_respells h fun mem => absurd (switch mem) (by decide),
    readNumber_respells h fun mem => absurd (switch mem) (by decide)]

/-- Values are a list, and no switch has one. -/
theorem readValues_respells (h : c.Respells keys c') : readValues c' = readValues c := by
  unfold readValues
  rw [h.kind_eq, h.list?, h.name_eq]

theorem readDefault_respells (h : c.Respells keys c') (switch : keys ⊆ switches) :
    readDefault c' = readDefault c := by
  unfold readDefault
  rw [h.value? fun mem => absurd (switch mem) (by decide), h.has, h.name_eq]

/-- The foreign key is the same but for its table, for which the text of
`constrained` is read, and a flag has none. -/
theorem readForeign_respells (h : c.Respells keys c') (switch : keys ⊆ switches) :
    readForeign c' = (readForeign c).map (Option.map fun key => { key with table := c'.target }) := by
  have other {option : String} (no : option ∉ switches) : option ∉ keys :=
    fun mem => no (switch mem)
  have column : c'.value? "references" = c.value? "references" := h.value? (other (by decide))
  unfold readForeign
  rw [h.isForeignKey, readAction_respells h (other (by decide)),
    readAction_respells h (other (by decide)), column]
  cases c.isForeignKey with
  | false => rfl
  | true =>
    show (readAction c "onDelete" >>= _) = Except.map _ (readAction c "onDelete" >>= _)
    cases readAction c "onDelete" with
    | error fault => rfl
    | ok onDelete =>
      show (readAction c "onUpdate" >>= _) = Except.map _ (readAction c "onUpdate" >>= _)
      cases readAction c "onUpdate" <;> rfl

/-- **The specification is the same but for the table of the foreign key.**
This includes that it is there at all: the options that can be wrong are not
switches. -/
theorem ofDecl_respells (h : c.Respells keys c') (switch : keys ⊆ switches) :
    ofDecl c' = (ofDecl c).map (retargeted c'.target) := by
  have other {option : String} (no : option ∉ switches) : option ∉ keys :=
    fun mem => no (switch mem)
  have after : c'.value? "after" = c.value? "after" := h.value? (other (by decide))
  have comment : c'.value? "comment" = c.value? "comment" := h.value? (other (by decide))
  unfold ofDecl
  rw [readNumber_respells h (other (by decide)), readPrecision_respells h switch,
    readValues_respells h, readDefault_respells h switch, readForeign_respells h switch,
    h.name_eq, h.kind_eq, h.isNullable, h.isSet, h.isSet, h.isSet, h.isSet, after, comment]
  cases readNumber c "length" maxLength with
  | error fault => rfl
  | ok length =>
    cases readPrecision c with
    | error fault => rfl
    | ok precision =>
      cases readValues c with
      | error fault => rfl
      | ok values =>
        cases readDefault c with
        | error fault => rfl
        | ok default => cases readForeign c <;> rfl

/-- **The specification of a column is the same** if only the spelling of
switches differs and the foreign key refers to the same table. -/
theorem ofDecl_respells_of_target (h : c.Respells keys c') (switch : keys ⊆ switches)
    (same : c'.target = c.target) : ofDecl c' = ofDecl c := by
  have own := ofDecl_respells (.refl keys c) switch
  rw [ofDecl_respells h switch, same]
  exact own.symm

end ColumnSpec

/-! ## What they call for -/

/-- **Two results are alike**: they are the same fault, or results in a
relation. Computations that go on in ways that are alike have results that are
alike, so a relation is carried through a run step by step. -/
inductive Alike {ε α β : Type} (R : α → β → Prop) : Except ε α → Except ε β → Prop where
  | error (e : ε) : Alike R (.error e) (.error e)
  | ok {a : α} {b : β} (h : R a b) : Alike R (.ok a) (.ok b)

namespace Alike

variable {ε α β γ δ : Type} {R : α → β → Prop} {S : γ → δ → Prop} {x : Except ε α} {y : Except ε β}

/-- Results that are alike stay alike when each goes on in a way that is alike.
The next two statements are for computations in which the difference is gone at
the end. -/
theorem bind (h : Alike R x y) {f : α → Except ε γ} {g : β → Except ε δ}
    (later : ∀ a b, R a b → Alike S (f a) (g b)) : Alike S (x >>= f) (y >>= g) := by
  cases h with
  | error e => exact .error e
  | ok h => exact later _ _ h

theorem bind_eq (h : Alike R x y) {f : α → Except ε γ} {g : β → Except ε γ}
    (later : ∀ a b, R a b → g b = f a) : y >>= g = x >>= f := by
  cases h with
  | error e => rfl
  | ok h => exact later _ _ h

/-- What is computed from results that are alike is the same, if it does not
depend on the difference. -/
theorem map_eq (h : Alike R x y) {f : α → γ} {g : β → γ} (same : ∀ a b, R a b → g b = f a) :
    y.map g = x.map f := by
  cases h with
  | error e => rfl
  | ok h => exact congrArg Except.ok (same _ _ h)

end Alike

/-- An action for a column and one for the column written anew. -/
inductive ColumnAction.Respells (keys : List String) : ColumnAction → ColumnAction → Prop where
  | unchanged : Respells keys .unchanged .unchanged
  | new {c c' : ColumnDecl} (h : c.Respells keys c') : Respells keys (.new c) (.new c')
  | modified {c c' : ColumnDecl} (h : c.Respells keys c') (type : String) (nullable : Bool) :
      Respells keys (.modified c type nullable) (.modified c' type nullable)
  | dropped {c c' : ColumnDecl} (h : c.Respells keys c') (type : Option String) (nullable : Bool) :
      Respells keys (.dropped c type nullable) (.dropped c' type nullable)

/-- The type, when it is known to differ from the declared one, and the nullability that the
live column has, if the action replaces or removes one. -/
def ColumnAction.previous? : ColumnAction → Option (Option String × Bool)
  | modified _ type nullable => some (some type, nullable)
  | dropped _ type nullable => some (type, nullable)
  | _ => none

/-- A table and the table with its columns written anew. -/
structure TableDecl.Respells (keys : List String) (decl decl' : TableDecl) : Prop where
  /-- The name is the same. -/
  name_eq : decl'.name = decl.name
  /-- The columns are the same but for the spelling. -/
  columns : List.Forall₂ (ColumnDecl.Respells keys) decl.columns decl'.columns
  /-- The flags are the same. -/
  flags_eq : decl'.flags = decl.flags
  /-- The indexes are the same. -/
  indexes_eq : decl'.indexes = decl.indexes

/-- The outcomes for a table and for the table with its columns written anew. -/
structure TableDiff.Respells (keys : List String) (diff diff' : TableDiff) : Prop where
  /-- The name of the table is the same. -/
  table_eq : diff'.table = diff.table
  /-- The same happens to the table as a whole. -/
  action_eq : diff'.tableAction = diff.tableAction
  /-- The same happens to the columns. -/
  changes : List.Forall₂
    (fun a b => b.name = a.name ∧ ColumnAction.Respells keys a.action b.action)
    diff.changes diff'.changes
  /-- The warnings are the same. -/
  warnings_eq : diff'.warnings = diff.warnings

namespace TableDiff

variable {keys : List String} {options : DiffOptions} {inspector : Inspector} {table : String}
  {c c' : ColumnDecl} {columns columns' : List ColumnDecl} {decl decl' : TableDecl}
  {diff diff' : TableDiff}

/-- Compared with the same live column, the two spellings call for the same,
about a column in the one spelling or in the other. -/
theorem actionFor_respells (h : c.Respells keys c') (live : Option LiveColumn) :
    Option.Rel (ColumnAction.Respells keys) (actionFor c live) (actionFor c' live) := by
  cases live with
  | none =>
    unfold actionFor
    rw [h.isMarkedForDrop]
    cases c.isMarkedForDrop with
    | true => exact .none
    | false => exact .some (.new h)
  | some live =>
    unfold actionFor
    dsimp only
    rw [h.isMarkedForDrop, h.isNullable, h.kind_eq]
    split
    · exact .some (.dropped h.withoutDrop _ _)
    · split
      · exact .some .unchanged
      · exact .some (.modified h _ _)

/-- So they do when the live column has to be looked up, which is done once for
each and with the same name, and fails for both or for neither. -/
theorem compareColumn_respells (h : c.Respells keys c') :
    Alike (Option.Rel (ColumnAction.Respells keys)) (compareColumn options inspector table c)
      (compareColumn options inspector table c') := by
  unfold compareColumn
  rw [h.name_eq]
  split
  · exact .ok (.some .unchanged)
  · cases inspector.lookup table c.name with
    | error fault => exact .error fault
    | ok live =>
      have related := actionFor_respells h live
      dsimp only [bind, Except.bind]
      revert related
      generalize actionFor c live = action, actionFor c' live = action'
      intro related
      cases related with
      | some same => exact .ok (.some same)
      | none =>
        dsimp only
        split
        · exact .error _
        · exact .ok .none

/-- **Columns written anew are compared with the same outcome**, and up to the same fault. -/
theorem compareColumns_respells (h : List.Forall₂ (ColumnDecl.Respells keys) columns columns') :
    Alike (List.Forall₂ fun a b =>
        b.1 = a.1 ∧ Option.Rel (ColumnAction.Respells keys) a.2 b.2)
      (compareColumns options inspector table columns)
      (compareColumns options inspector table columns') := by
  induction h with
  | nil => exact .ok .nil
  | cons first _ ih =>
    refine (compareColumn_respells first).bind fun a b here => ?_
    exact ih.bind fun later later' there => .ok (.cons ⟨first.name_eq, here⟩ there)

/-- **The comparison of a table is the same but for the spelling of the columns
it carries**, with any inspector, also one that fails at some column. -/
theorem alteration_respells (h : decl.Respells keys decl') :
    Alike (Respells keys) (alteration options inspector decl)
      (alteration options inspector decl') := by
  unfold alteration
  rw [h.name_eq]
  refine (compareColumns_respells h.columns).bind fun compared compared' same => .ok ?_
  refine ⟨rfl, rfl, ?_, ?_⟩
  · refine List.rel_filterMap (fun a b hab => ?_) same
    obtain ⟨name, action⟩ := a
    obtain ⟨_, action'⟩ := b
    obtain ⟨rfl, related⟩ := hab
    cases related with
    | none => exact .none
    | some related => exact .some ⟨rfl, related⟩
  · refine filterMap_eq_of_forall₂ same fun a b hab => ?_
    obtain ⟨name, action⟩ := a
    obtain ⟨_, action'⟩ := b
    obtain ⟨rfl, related⟩ := hab
    cases related <;> rfl

theorem creation_respells (h : decl.Respells keys decl') :
    Respells keys (creation decl) (creation decl') := by
  have kept : List.Forall₂ (ColumnDecl.Respells keys) (decl.columns.filter isKept)
      (decl'.columns.filter isKept) :=
    forall₂_filter h.columns fun c c' hc => congrArg not hc.isMarkedForDrop
  have explicit := forall₂_filter kept (p := fun c => !isImpliedKey c)
    (q := fun c => !isImpliedKey c) fun c c' hc => congrArg not hc.isImpliedKey
  have marked := forall₂_filter h.columns (p := fun c => c.isMarkedForDrop)
    (q := fun c => c.isMarkedForDrop) fun c c' hc => hc.isMarkedForDrop
  refine ⟨h.name_eq, ?_, ?_, ?_⟩
  · have names := map_eq_of_forall₂ explicit (f := ColumnDecl.name) (g := ColumnDecl.name)
      fun c c' hc => hc.name_eq
    have keyed := congrArg (fun names => TableAction.create !(names.any (· == "id"))) names
    rw [List.any_map, List.any_map] at keyed
    exact keyed
  · exact List.rel_map (fun c c' hc => ⟨hc.name_eq, .new hc⟩) explicit
  · exact map_eq_of_forall₂ marked fun c c' hc => by rw [hc.name_eq, h.name_eq]

/-- **A table written anew is compared with the same outcome**, whatever there is. -/
theorem compare_respells (h : decl.Respells keys decl') (tableExists : Bool) :
    Alike (Respells keys) (compare options inspector decl tableExists)
      (compare options inspector decl' tableExists) := by
  cases tableExists with
  | false => exact .ok (creation_respells h)
  | true => exact alteration_respells h

/-! ### Their artifacts -/

/-- What is selected from the changes is the same but for the spelling, if the
selection goes by the kind of a change. New, modified and dropped columns are
selected in this way. -/
theorem filterMap_changes_respells {β : Type} {S : β → β → Prop} {f : ColumnAction → Option β}
    (h : diff.Respells keys diff')
    (keeps : ∀ a b, ColumnAction.Respells keys a b → Option.Rel S (f a) (f b)) :
    List.Forall₂ S (diff.changes.filterMap fun change => f change.action)
      (diff'.changes.filterMap fun change => f change.action) :=
  List.rel_filterMap (fun _ _ hab => keeps _ _ hab.2) h.changes

theorem newColumns_respells (h : diff.Respells keys diff') :
    List.Forall₂ (ColumnDecl.Respells keys) diff.newColumns diff'.newColumns := by
  refine filterMap_changes_respells (f := ColumnAction.new?) h fun a b related => ?_
  cases related with
  | new h => exact .some h
  | _ => exact .none

theorem modifiedColumns_respells (h : diff.Respells keys diff') :
    List.Forall₂ (fun m m' => m.1.Respells keys m'.1 ∧ m'.2 = m.2)
      diff.modifiedColumns diff'.modifiedColumns := by
  refine filterMap_changes_respells (f := ColumnAction.modified?) h fun a b related => ?_
  cases related with
  | modified h => exact .some ⟨h, rfl⟩
  | _ => exact .none

theorem droppedColumns_respells (h : diff.Respells keys diff') :
    List.Forall₂ (fun d d' => d.1.Respells keys d'.1 ∧ d'.2 = d.2)
      diff.droppedColumns diff'.droppedColumns := by
  refine filterMap_changes_respells (f := ColumnAction.dropped?) h fun a b related => ?_
  cases related with
  | dropped h => exact .some ⟨h, rfl⟩
  | _ => exact .none

theorem isUpToDate_respells (h : diff.Respells keys diff') : diff'.isUpToDate = diff.isUpToDate := by
  have same := map_eq_of_forall₂ h.changes (f := fun change => change.action == .unchanged)
    (g := fun change => change.action == .unchanged) fun ⟨_, _⟩ ⟨_, _⟩ ⟨_, related⟩ => by
      cases related <;> rfl
  have all := congrArg (fun found => found.all id) same
  rw [List.all_map, List.all_map] at all
  unfold isUpToDate
  rw [h.action_eq]
  exact congrArg _ all

section Artifacts

variable (same : ∀ c c', ColumnDecl.Respells keys c c' → ColumnSpec.ofDecl c' = ColumnSpec.ofDecl c)

include same

/-- **The bodies of the artifacts are the same**, since a specification is made
from each column and from nothing else. -/
theorem bodies_respells (h : diff.Respells keys diff') (declared : decl.Respells keys decl') :
    diff'.bodies decl' = diff.bodies decl := by
  have added : diff'.newColumns.mapM ColumnSpec.ofDecl = diff.newColumns.mapM ColumnSpec.ofDecl :=
    mapM_eq_of_forall₂ (newColumns_respells h) same
  have modified : diff'.modificationBody = diff.modificationBody := by
    unfold modificationBody
    rw [mapM_eq_of_forall₂ (modifiedColumns_respells h)]
    rintro ⟨c, type, nullable⟩ ⟨c', _, _⟩ ⟨hc, rest⟩
    cases rest
    dsimp only [modification]
    rw [same c c' hc, hc.name_eq]
  have removed : diff'.removalBody = diff.removalBody := by
    unfold removalBody
    rw [mapM_eq_of_forall₂ (droppedColumns_respells h)]
    rintro ⟨c, type, nullable⟩ ⟨c', _, _⟩ ⟨hc, rest⟩
    cases rest
    dsimp only [replacement]
    rw [same c c' hc]
  unfold bodies creationBody additionBody
  rw [h.action_eq, added, modified, removed, declared.flags_eq, declared.indexes_eq]

/-- **The artifacts are the same** where the specifications are. Names, times
and operations are made of nothing else. -/
theorem artifacts_respells (h : diff.Respells keys diff') (declared : decl.Respells keys decl')
    (now : Instant) : diff'.artifacts decl' now = diff.artifacts decl now := by
  unfold artifacts
  rw [bodies_respells same h declared, h.table_eq]

end Artifacts

/-- What an outcome says but for the columns themselves: what happens to the table, what
happens to each column and the type and the nullability that it has, and the warnings. -/
def outline (diff : TableDiff) :
    TableAction × List (String × String × Option (Option String × Bool)) × List DiffWarning :=
  (diff.tableAction,
    diff.changes.map fun change => (change.name, change.action.label, change.action.previous?),
    diff.warnings)

/-- The outline of a comparison has no columns in it, only names, verdicts and
live types, and so does not show the spelling. -/
theorem outline_respells (h : diff.Respells keys diff') : diff'.outline = diff.outline := by
  unfold outline
  rw [h.action_eq, h.warnings_eq, map_eq_of_forall₂ h.changes]
  rintro ⟨name, action⟩ ⟨_, action'⟩ ⟨rfl, related⟩
  cases related <;> rfl

end TableDiff

/-! ## Runs -/

section Runs

variable {keys : List String} {decl decl' : TableDecl}

/-- Nothing but `constrained` has a say in the table of a foreign key. -/
theorem ColumnSpec.ofDecl_respells_of_notMem (switch : keys ⊆ ColumnDecl.switches)
    (free : "constrained" ∉ keys) {c c' : ColumnDecl} (h : c.Respells keys c') :
    ofDecl c' = ofDecl c := by
  refine ofDecl_respells_of_target h switch ?_
  unfold ColumnDecl.target
  rw [h.value? free, h.value? fun mem => absurd (switch mem) (by decide), h.name_eq]

/-- **A plan calls for the same artifacts** if the table is written anew but for
`constrained`. -/
theorem Plan.artifacts_respells (switch : keys ⊆ ColumnDecl.switches) (free : "constrained" ∉ keys)
    (h : decl.Respells keys decl') (options : DiffOptions) (names : List String)
    (inspector : Inspector) (now : Instant) :
    (make options names inspector decl' >>= fun plan => plan.artifacts now) =
      make options names inspector decl >>= fun plan => plan.artifacts now := by
  unfold make
  rw [h.name_eq, bind_assoc, bind_assoc]
  refine congrArg _ (funext fun tableExists => ?_)
  rw [bind_assoc, bind_assoc]
  refine (TableDiff.compare_respells h _).bind_eq fun diff diff' related => ?_
  rw [pure_bind, pure_bind, Plan.artifacts, Plan.artifacts, TableDiff.isUpToDate_respells related,
    TableDiff.artifacts_respells
      (fun _ _ hc => ColumnSpec.ofDecl_respells_of_notMem switch free hc) related h]

/-- **A run does the same** if its table is written anew but for `constrained`,
over any archive and with any inspector. -/
theorem Archive.generate_respells (switch : keys ⊆ ColumnDecl.switches)
    (free : "constrained" ∉ keys) {text text' : String} (parsed : TableDecl.parse text = .ok decl)
    (parsed' : TableDecl.parse text' = .ok decl') (h : decl.Respells keys decl') {σ : Type}
    (archive : Archive (StateM σ)) (options : RunOptions) (inspector : Inspector) (now : Instant)
    (s : σ) :
    (archive.generate options inspector now text').run s =
      (archive.generate options inspector now text).run s := by
  cases listed : (archive.names.run s).1 with
  | error fault => rw [run_generate_of_unlisted parsed listed, run_generate_of_unlisted parsed' listed]
  | ok names =>
    rw [run_generate_of_listed parsed listed, run_generate_of_listed parsed' listed,
      Plan.artifacts_respells switch free h]

end Runs

/-! ## One switch -/

/-- The name of a table that is found from the name of a column ends in `s`. -/
theorem ForeignKey.getLast?_referencedTable (column : String) :
    (referencedTable column).toList.getLast? = some 's' := by
  unfold referencedTable plural
  split
  · simp
  · split
    · simp
    · split <;> simp

/-- No spelling of `true` is such a name. -/
theorem ForeignKey.referencedTable_ne_true (column : String) {text : String}
    (spelled : Text.equalIgnoringCase text "true" = true) : referencedTable column ≠ text := by
  rintro rfl
  have lowered : Text.lower (referencedTable column) = "true" := eq_of_beq spelled
  have last := congrArg (fun s => s.toList.getLast?) lowered
  rw [Text.lower, String.toList_ofList, List.getLast?_map, getLast?_referencedTable] at last
  revert last
  decide

namespace ColumnDecl

variable {column : ColumnDecl} {key text : String}

/-- With its text, `constrained` names the table. -/
@[simp] theorem target_withValue (column : ColumnDecl) (text : String) :
    (column.withValue "constrained" text).target = text := by
  simp [target, value?]

/-- A bare `constrained` leaves the table to `on`, or to the name of the column, which never
leads to a spelling of `true`. -/
theorem target_eq_iff_of_flag (flag : column.options.get? "constrained" = some .flag)
    (spelled : Text.equalIgnoringCase text "true" = true) :
    column.target = text ↔ column.value? "on" = some text := by
  have unnamed : column.value? "constrained" = none := by
    unfold value?
    rw [flag]
  rw [target, unnamed, Option.orElse_none]
  cases column.value? "on" with
  | some named => simp
  | none =>
    exact iff_of_false (ForeignKey.referencedTable_ne_true column.name spelled) nofun

end ColumnDecl

/-- Specifications with a foreign key that differ in its table are different,
so the table is no minor matter. -/
theorem ColumnSpec.retargeted_inj {spec : ColumnSpec} (refers : spec.foreign.isSome = true)
    {table other : String} : spec.retargeted table = spec.retargeted other ↔ table = other := by
  refine ⟨fun same => ?_, fun same => same ▸ rfl⟩
  obtain ⟨key, hk⟩ := Option.isSome_iff_exists.1 refers
  have tables := congrArg (fun spec => spec.foreign.map ForeignKey.table) same
  dsimp only [retargeted] at tables
  rw [hk] at tables
  exact Option.some.inj tables

/-- With a bare `constrained` the specification is that of the column with its text only if
the foreign key refers to a table of that name anyway, or there is none. -/
theorem ColumnSpec.ofDecl_map_retargeted_iff {column : ColumnDecl} {text : String}
    (flag : column.options.get? "constrained" = some .flag) :
    (ofDecl column).map (retargeted text) = ofDecl column ↔
      column.target = text ∨ ∃ fault, ofDecl column = .error fault := by
  have own := ofDecl_respells (.refl [] column) (List.nil_subset _)
  cases made : ofDecl column with
  | error fault => exact iff_of_true rfl (.inr ⟨fault, rfl⟩)
  | ok spec =>
    rw [made] at own
    have refers : spec.foreign.isSome = true := by
      rw [(of_ofDecl made).2.2.2, ColumnDecl.isForeignKey,
        show column.has "constrained" = true by rw [ColumnDecl.has, flag]; rfl]
      simp
    have same : spec = spec.retargeted column.target := Except.ok.inj own
    constructor
    · intro kept
      have equal : spec.retargeted text = spec := Except.ok.inj kept
      exact .inl ((retargeted_inj refers).1 (equal.trans same)).symm
    · rintro (rfl | ⟨fault, failed⟩)
      · exact own.symm
      · cases failed

/-- **When a bare flag and its text `true` mean the same.** Whatever the switch, a table in
which it is written the one way is compared with the same outcome as one in which it is
written the other way. The specification of the column is the same too, unless the switch is
`constrained`: its text is taken for the table of the foreign key, and that is all that it
changes. -/
theorem spelling_of_switches {column : ColumnDecl} {key text : String}
    (switch : key ∈ ColumnDecl.switches) (flag : column.options.get? key = some .flag)
    (spelled : Text.equalIgnoringCase text "true" = true) :
    (∀ (options : DiffOptions) (inspector : Inspector) (decl : TableDecl)
      (before after : List ColumnDecl) (tableExists : Bool),
      (TableDiff.compare options inspector
        { decl with columns := before ++ column.withValue key text :: after }
        tableExists).map TableDiff.outline =
      (TableDiff.compare options inspector { decl with columns := before ++ column :: after }
        tableExists).map TableDiff.outline) ∧
    (key ≠ "constrained" →
      ColumnSpec.ofDecl (column.withValue key text) = ColumnSpec.ofDecl column) ∧
    (key = "constrained" →
      ColumnSpec.ofDecl (column.withValue key text) =
        (ColumnSpec.ofDecl column).map (ColumnSpec.retargeted text) ∧
      (ColumnSpec.ofDecl (column.withValue key text) = ColumnSpec.ofDecl column ↔
        column.value? "on" = some text ∨ ∃ fault, ColumnSpec.ofDecl column = .error fault)) := by
  have anew := ColumnDecl.respells_withValue flag spelled
  have within : [key] ⊆ ColumnDecl.switches := List.cons_subset.2 ⟨switch, List.nil_subset _⟩
  refine ⟨fun options inspector decl before after tableExists => ?_, fun other => ?_, ?_⟩
  · have table : TableDecl.Respells [key] { decl with columns := before ++ column :: after }
        { decl with columns := before ++ column.withValue key text :: after } :=
      ⟨rfl, List.rel_append (List.forall₂_same.2 fun c _ => .refl _ c)
        (.cons anew (List.forall₂_same.2 fun c _ => .refl _ c)), rfl, rfl⟩
    exact (TableDiff.compare_respells table tableExists).map_eq fun _ _ => TableDiff.outline_respells
  · refine ColumnSpec.ofDecl_respells_of_notMem within ?_ anew
    exact fun mem => other (List.mem_singleton.1 mem).symm
  · rintro rfl
    have changed := ColumnSpec.ofDecl_respells anew within
    rw [ColumnDecl.target_withValue] at changed
    refine ⟨changed, ?_⟩
    rw [changed, ColumnSpec.ofDecl_map_retargeted_iff flag,
      ColumnDecl.target_eq_iff_of_flag flag spelled]

/-- The author of a text, who may be unknown. -/
def authorKey : ColumnDecl :=
  ((ColumnDecl.new "author_id" .foreignId).withFlag "constrained").withFlag "nullable"

/-- The author may be unknown in either spelling; the text of `constrained` leads elsewhere. -/
theorem spelling_of_switches_author :
    ColumnSpec.ofDecl (authorKey.withValue "nullable" "True") = ColumnSpec.ofDecl authorKey ∧
    ColumnSpec.ofDecl (authorKey.withValue "constrained" "True") =
      (ColumnSpec.ofDecl authorKey).map (ColumnSpec.retargeted "True") :=
  ⟨(spelling_of_switches (by decide) (by decide) (by decide)).2.1 (by decide),
    ((spelling_of_switches (by decide) (by decide) (by decide)).2.2 rfl).1⟩

/-- The author is one of the `authors`, but with `constrained=true` one of the table `true`. -/
theorem text_of_constrained_is_a_table :
    authorKey.options.get? "constrained" = some .flag ∧
    (ColumnSpec.ofDecl authorKey).map (fun spec => spec.foreign.map ForeignKey.table) =
      .ok (some "authors") ∧
    (ColumnSpec.ofDecl (authorKey.withValue "constrained" "true")).map
      (fun spec => spec.foreign.map ForeignKey.table) = .ok (some "true") :=
  ⟨by decide, eq_ok_of_any_beq (by decide +kernel), eq_ok_of_any_beq (by decide +kernel)⟩

end SchemaPlan
