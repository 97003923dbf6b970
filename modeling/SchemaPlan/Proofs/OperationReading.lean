import SchemaPlan.Proofs.ExpressionReading

/-!
# Operations are read back

Every operation is read back from its source, whatever texts are in it
(`Operation.read?_render`). Nothing is required of the operation: the functions
and constants are those of a fixed list, and texts stand in literals.

For a column this says that its calls build it. Each call sets one part of a
column that no earlier call has set, except the actions of a foreign key,
which need the key; so the calls are followed one part at a time, from the
plain column to the column itself.
-/

namespace SchemaPlan

/-! ## Constants -/

/-- **A kind is read back from its constant.** That no two kinds share a
constant is checked for all of them at once; actions and kinds of index follow
in the same way. -/
@[simp] theorem ColumnKind.ofConstant?_constant (kind : ColumnKind) :
    ColumnKind.ofConstant? ("ColumnType::" ++ kind.constant) = some kind := by
  have each : ∀ kind ∈ ColumnKind.all,
      ColumnKind.ofConstant? ("ColumnType::" ++ kind.constant) = some kind := by
    decide +kernel
  exact each kind kind.mem_all

@[simp] theorem ColumnKind.isReadable_constant (kind : ColumnKind) :
    (Argument.constant ("ColumnType::" ++ kind.constant)).isReadable = true := by
  have each : ∀ kind ∈ ColumnKind.all,
      (Argument.constant ("ColumnType::" ++ kind.constant)).isReadable = true := by
    decide +kernel
  exact each kind kind.mem_all

@[simp] theorem ReferentialAction.ofConstant?_constant (action : ReferentialAction) :
    ReferentialAction.ofConstant? ("ForeignKeyAction::" ++ action.constant) = some action := by
  cases action <;> decide

/-- The constant of an action is a name that is not mistaken for an optional
text, so it is read as an argument. -/
@[simp] theorem ReferentialAction.isReadable_argument (action : ReferentialAction) :
    action.argument.isReadable = true := by
  cases action <;> decide

@[simp] theorem IndexKind.ofConstant?_constant (kind : IndexKind) :
    IndexKind.ofConstant? ("IndexKind::" ++ kind.constant) = some kind := by
  cases kind <;> decide

@[simp] theorem IndexKind.isReadable_constant (kind : IndexKind) :
    (Argument.constant ("IndexKind::" ++ kind.constant)).isReadable = true := by
  cases kind <;> decide

namespace ColumnSpec

/-! ## The parts of a column -/

/-- The step for an optional part sets it, if the column had none. -/
theorem foldl_optional {α : Type} (step : α → Modifier) (set : Option α → ColumnSpec → ColumnSpec)
    (sets : ∀ spec a, modify spec (step a) = set (some a) spec) (part : Option α)
    (spec : ColumnSpec) (missing : set none spec = spec) :
    (part.map step).toList.foldl modify spec = set part spec := by
  cases part with
  | none => exact missing.symm
  | some a => exact sets spec a

/-- The step for a property sets it, if the column did not have it. -/
theorem foldl_flag (step : Modifier) (set : Bool → ColumnSpec → ColumnSpec)
    (sets : ∀ spec, modify spec step = set true spec) (flag : Bool) (spec : ColumnSpec)
    (missing : set false spec = spec) :
    (if flag then [step] else []).foldl modify spec = set flag spec := by
  cases flag with
  | false => exact missing.symm
  | true => exact sets spec

/-- The values of an enumeration are written only if there are any, and reading
them into a column without values gives the values either way. -/
theorem foldl_values (values : List String) {spec : ColumnSpec} (missing : spec.values = []) :
    (if values.isEmpty then [] else [Modifier.values values]).foldl modify spec =
      { spec with values := values } := by
  cases values with
  | nil =>
    show spec = { spec with values := [] }
    rw [← missing]
  | cons first rest => rfl

/-- The actions of a foreign key come after the key, so they are not lost. -/
theorem foldl_foreign (foreign : Option ForeignKey) {spec : ColumnSpec}
    (missing : spec.foreign = none) :
    ((foreign.map foreignModifiers).getD []).foldl modify spec = { spec with foreign := foreign } := by
  cases foreign with
  | none =>
    show spec = { spec with foreign := none }
    rw [← missing]
  | some key =>
    obtain ⟨table, column, onDelete, onUpdate⟩ := key
    cases onDelete with
    | none =>
      cases onUpdate with
      | none => rfl
      | some update => rfl
    | some delete =>
      cases onUpdate with
      | none => rfl
      | some update => rfl

/-- **A column is built by its own steps.** -/
@[simp] theorem build_modifiers (spec : ColumnSpec) :
    build spec.name spec.kind spec.modifiers = spec := by
  unfold build modifiers
  simp only [List.foldl_append]
  -- each part is still missing when its own step comes, which the last line checks
  rw [foldl_optional .length fun length spec => { spec with length := length },
    foldl_optional _ fun precision spec => { spec with precision := precision },
    foldl_values,
    foldl_flag .nullable fun nullable spec => { spec with nullable := nullable },
    foldl_optional .default fun default spec => { spec with default := default },
    foldl_flag .unsigned fun unsigned spec => { spec with unsigned := unsigned },
    foldl_flag .index fun index spec => { spec with index := index },
    foldl_flag .unique fun unique spec => { spec with unique := unique },
    foldl_flag .primary fun primary spec => { spec with primary := primary },
    foldl_optional .after fun after spec => { spec with after := after },
    foldl_optional .comment fun comment spec => { spec with comment := comment },
    foldl_foreign]
  all_goals intros
  all_goals rfl

/-! ## The calls of a column -/

/-- **Every step is read back from its call**, by cases on the step. Only the
two with an action in them need a look at a constant. -/
@[simp] theorem Modifier.ofCall?_call (step : Modifier) :
    Modifier.ofCall? step.call = some step := by
  cases step with
  | onDelete action =>
    show (ReferentialAction.ofConstant? ("ForeignKeyAction::" ++ action.constant)).map onDelete = _
    simp
  | onUpdate action =>
    show (ReferentialAction.ofConstant? ("ForeignKeyAction::" ++ action.constant)).map onUpdate = _
    simp
  | _ => rfl

@[simp] theorem Modifier.isName_function (step : Modifier) : isName step.call.function = true := by
  have each : ∀ function ∈ ["length", "precision", "values", "nullable", "default", "unsigned",
      "index", "unique", "primary", "after", "comment", "constrained", "on_delete", "on_update"],
      isName function = true := by
    decide
  refine each step.call.function ?_
  cases step <;> simp [call]

/-- The call of a step is written like no other call, since its function is one
of fourteen names and its arguments can be read. -/
@[simp] theorem Modifier.isReadable_call (step : Modifier) : step.call.isReadable = true := by
  refine Bool.and_eq_true_iff.2 ⟨step.isName_function, ?_⟩
  cases step with
  | onDelete action =>
    show (action.argument.isReadable && true) = true
    simp
  | onUpdate action =>
    show (action.argument.isReadable && true) = true
    simp
  | _ => rfl

/-- The steps of a column are read back one after the other, by induction on
the list of calls. -/
theorem mapM_ofCall? (steps : List Modifier) :
    (steps.map Modifier.call).mapM Modifier.ofCall? = some steps := by
  induction steps with
  | nil => rfl
  | cons step later ih =>
    simp [ih]

/-- **The calls of a column build it.** -/
@[simp] theorem ofCalls?_calls (spec : ColumnSpec) :
    ofCalls? spec.newCall spec.methodCalls = some spec := by
  show (ColumnKind.ofConstant? ("ColumnType::" ++ spec.kind.constant)).bind (fun kind =>
    ((spec.modifiers.map Modifier.call).mapM Modifier.ofCall?).bind fun steps =>
      some (build spec.name kind steps)) = some spec
  simp [mapM_ofCall?, -List.mapM_map]

@[simp] theorem isReadable_newCall (spec : ColumnSpec) : spec.newCall.isReadable = true := by
  show (isName "ColumnSpec::new" && (true &&
    ((Argument.constant ("ColumnType::" ++ spec.kind.constant)).isReadable && true))) = true
  rw [ColumnKind.isReadable_constant]
  decide

@[simp] theorem isReadable_methodCalls (spec : ColumnSpec) :
    spec.methodCalls.all Call.isReadable = true := by
  rw [List.all_eq_true]
  intro method known
  obtain ⟨step, -, rfl⟩ := List.mem_map.1 known
  exact step.isReadable_call

end ColumnSpec

/-! ## Operations -/

namespace Operation

@[simp] theorem isReadable_expression (operation : Operation) :
    operation.expression.isReadable = true := by
  cases operation with
  | addColumn spec =>
    show (isName "BlueprintOp::add_column" && spec.newCall.isReadable &&
      spec.methodCalls.all Call.isReadable) = true
    rw [spec.isReadable_newCall, spec.isReadable_methodCalls]
    decide
  | changeColumn spec =>
    show (isName "BlueprintOp::change_column" && spec.newCall.isReadable &&
      spec.methodCalls.all Call.isReadable) = true
    rw [spec.isReadable_newCall, spec.isReadable_methodCalls]
    decide
  | createIndex index =>
    show (isName "BlueprintOp::composite_index" &&
      ((Argument.constant ("IndexKind::" ++ index.kind.constant)).isReadable && true) && true) = true
    rw [IndexKind.isReadable_constant]
    decide
  | id =>
    decide
  | dropColumn column =>
    show (isName "BlueprintOp::drop_column" && true && true) = true
    decide
  | dropForeign column =>
    show (isName "BlueprintOp::drop_foreign" && true && true) = true
    decide
  | softDeletes => decide
  | timestamps => decide
  | dropTable => decide

/-- **An operation is read back from its expression.** What a column carries is
read from its calls, and the other operations carry texts only. -/
@[simp] theorem ofExpression?_expression (operation : Operation) :
    ofExpression? operation.expression = some operation := by
  cases operation with
  | addColumn spec =>
    show (ColumnSpec.ofCalls? spec.newCall spec.methodCalls).map addColumn = _
    simp
  | changeColumn spec =>
    show (ColumnSpec.ofCalls? spec.newCall spec.methodCalls).map changeColumn = _
    simp
  | createIndex index =>
    show (IndexKind.ofConstant? ("IndexKind::" ++ index.kind.constant)).map
      (fun kind => createIndex ⟨kind, index.columns, index.name⟩) = _
    simp
  | _ => rfl

/-- **Every operation is read back from its source.** -/
@[simp] theorem read?_render (operation : Operation) : read? operation.render = some operation := by
  unfold read? render
  rw [Expression.read?_render operation.isReadable_expression]
  exact operation.ofExpression?_expression

/-- No two operations have the same source. -/
theorem render_injective : Function.Injective render := by
  intro one other same
  have read := read?_render one
  rw [same, read?_render] at read
  exact (Option.some.inj read).symm

/-- An operation is written on one line, whatever texts it carries, so the
lines of a source are counted by its operations. -/
theorem isLine_render (operation : Operation) : Text.IsLine operation.render :=
  Expression.isLine_render operation.isReadable_expression

end Operation

end SchemaPlan
