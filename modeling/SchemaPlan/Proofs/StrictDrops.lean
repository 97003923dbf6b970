import SchemaPlan.Proofs.Classification
import SchemaPlan.Proofs.OfflineRun

/-!
# Strict drops

A mark for removal is void where the column is not there. As a rule such a mark is
skipped with a warning; when drops are strict, it is a fault. The comparison then ends
at the column with the mark, and those behind it are not looked at.

Nothing in front of a void mark hangs on whether drops are strict, so the mark at which
the strict comparison ends is the one that the lenient comparison warns of first
(`TableDiff.compareColumns_strict`). The strict outcome is therefore a function of the
lenient one, `TableDiff.enforced`, and that carries over to plans (`Plan.make_strict`) and
to runs (`strict_drops_refine_lenient_drops`). A table that is created has nothing to drop,
and its warnings are no faults.

This supposes that the lenient comparison has an outcome, which it always has with a known
schema. With another inspector a look-up behind the void mark may fail. The lenient
comparison then ends there, and the strict one at the mark.
-/

namespace SchemaPlan

/-- **An inspector that comes with the planner**: there is no database, or the schema is
known. -/
def Inspector.IsStandard (inspector : Inspector) : Prop :=
  inspector = .offline ∨ ∃ catalog, inspector = .online catalog

namespace TableDiff

variable {systemColumns : List String} {inspector : Inspector} {decl : TableDecl}
  {diff : TableDiff} {fault : Fault}

/-! ## Comparisons -/

/-- When drops are strict, a column has to have an action. -/
def required (table : String) (column : ColumnDecl) :
    Option ColumnAction → Except Fault (Option ColumnAction)
  | none => .error (.missingDrop table column.name)
  | some action => .ok (some action)

theorem compareColumn_strict (table : String) (column : ColumnDecl) :
    compareColumn ⟨systemColumns, true⟩ inspector table column =
      compareColumn ⟨systemColumns, false⟩ inspector table column >>= required table column := by
  unfold compareColumn
  split
  · rfl
  · cases inspector.lookup table column.name with
    | error fault => rfl
    | ok live =>
      simp only [bind, Except.bind]
      cases actionFor column live <;> rfl

/-- Only a column that is marked for removal is without an action. -/
theorem isMarkedForDrop_of_compareColumn {options : DiffOptions} {table : String}
    {column : ColumnDecl} (h : compareColumn options inspector table column = .ok none) :
    column.isMarkedForDrop = true := by
  by_contra kept
  unfold compareColumn at h
  split at h
  · cases h
  · obtain ⟨live, -, h⟩ := bind_eq_ok_iff.1 h
    cases live with
    | none =>
      rw [actionFor, if_neg kept] at h
      cases h
    | some live =>
      rw [actionFor] at h
      simp only [if_neg kept] at h
      split at h
      · cases h
      · rename_i none
        split at none <;> cases none

/-- **Strict drops end a comparison at the first void mark**, which is the one of the first
warning, and without one they make no difference. -/
theorem compareColumns_strict {table : String} {columns : List ColumnDecl}
    {compared : List (String × Option ColumnAction)}
    (h : compareColumns ⟨systemColumns, false⟩ inspector table columns = .ok compared) :
    compareColumns ⟨systemColumns, true⟩ inspector table columns =
      match compared.filterMap fun e : String × Option ColumnAction =>
        if e.2.isNone then some (⟨e.1, .columnNotLive table⟩ : DiffWarning) else none with
      | [] => .ok compared
      | first :: _ => .error (.missingDrop table first.column) := by
  induction columns generalizing compared with
  | nil =>
    cases h
    rfl
  | cons c rest ih =>
    obtain ⟨action, first, h⟩ := bind_eq_ok_iff.1 h
    obtain ⟨later, tail, h⟩ := bind_eq_ok_iff.1 h
    cases h
    rw [compareColumns, compareColumn_strict, first]
    cases action with
    | none => rfl
    | some action =>
      show (compareColumns _ inspector table rest >>= _) = _
      rw [ih tail, List.filterMap_cons_none (by rfl)]
      split <;> rfl

/-- Where the lenient comparison has no outcome, the strict one has none either. It may end
before, at a mark for removal. -/
theorem compareColumns_strict_of_error {table : String} {columns : List ColumnDecl}
    (h : compareColumns ⟨systemColumns, false⟩ inspector table columns = .error fault) :
    compareColumns ⟨systemColumns, true⟩ inspector table columns = .error fault ∨
      ∃ c ∈ columns, c.isMarkedForDrop = true ∧
        compareColumns ⟨systemColumns, true⟩ inspector table columns =
          .error (.missingDrop table c.name) := by
  induction columns with
  | nil => cases h
  | cons c rest ih =>
    rw [compareColumns, compareColumn_strict]
    rcases bind_eq_error_iff.1 h with first | ⟨action, first, h⟩
    · rw [first]
      exact .inl rfl
    · rw [first]
      cases action with
      | none => exact .inr ⟨c, List.mem_cons_self, isMarkedForDrop_of_compareColumn first, rfl⟩
      | some action =>
        rcases bind_eq_error_iff.1 h with tail | ⟨later, -, made⟩
        · rcases ih tail with same | ⟨d, hd, marked, missing⟩
          · rw [same]
            exact .inl rfl
          · rw [missing]
            exact .inr ⟨d, List.mem_cons_of_mem _ hd, marked, rfl⟩
        · cases made

/-- The outcome for an existing table when drops are strict: a fault for the first warning,
if there is one. -/
def enforced (table : String) (diff : TableDiff) : Except Fault TableDiff :=
  match diff.warnings with
  | [] => .ok diff
  | first :: _ => .error (.missingDrop table first.column)

/-- **The outcome under strict drops is the enforced outcome under lenient drops.** -/
theorem alteration_strict (h : alteration ⟨systemColumns, false⟩ inspector decl = .ok diff) :
    alteration ⟨systemColumns, true⟩ inspector decl = enforced decl.name diff := by
  obtain ⟨compared, columns, h⟩ := bind_eq_ok_iff.1 h
  cases h
  rw [alteration, compareColumns_strict columns, enforced]
  dsimp only
  split <;> rfl

/-- An alteration without an outcome has none when drops are strict. It may be another fault
only with an inspector that does not come with the planner. -/
theorem alteration_strict_of_error
    (h : alteration ⟨systemColumns, false⟩ inspector decl = .error fault) :
    alteration ⟨systemColumns, true⟩ inspector decl = .error fault ∨
      ¬ inspector.IsStandard ∧ ∃ c ∈ decl.columns, c.isMarkedForDrop = true ∧
        alteration ⟨systemColumns, true⟩ inspector decl =
          .error (.missingDrop decl.name c.name) := by
  by_cases standard : inspector.IsStandard
  · refine .inl ?_
    rcases standard with rfl | ⟨catalog, rfl⟩
    · rw [← h, alteration, alteration, compareColumns_offline, compareColumns_offline]
    · obtain ⟨diff, lenient⟩ :=
        @exists_alteration_of_lenient ⟨systemColumns, false⟩ catalog rfl decl
      cases h.symm.trans lenient
  · rw [alteration]
    rcases bind_eq_error_iff.1 h with columns | ⟨compared, -, made⟩
    · rcases compareColumns_strict_of_error columns with same | ⟨c, hc, marked, missing⟩
      · rw [same]
        exact .inl rfl
      · rw [missing]
        exact .inr ⟨standard, c, hc, marked, rfl⟩
    · cases made

end TableDiff

/-! ## Plans -/

namespace Plan

variable {systemColumns names : List String} {inspector : Inspector} {decl : TableDecl}
  {plan : Plan} {fault : Fault}

/-- What becomes of a plan when drops are strict: a fault for the first warning, if the
table exists and there is one. -/
def enforced (plan : Plan) : Except Fault Plan :=
  match plan.tableExists, plan.diff.warnings with
  | true, first :: _ => .error (.missingDrop plan.decl.name first.column)
  | _, _ => .ok plan

/-- **The plan under strict drops is the enforced plan under lenient drops.** -/
theorem make_strict (made : make ⟨systemColumns, false⟩ names inspector decl = .ok plan) :
    make ⟨systemColumns, true⟩ names inspector decl = plan.enforced := by
  obtain ⟨tableExists, diff, found, compared, rfl⟩ := make_eq_ok_iff.1 made
  cases tableExists with
  | false =>
    cases compared
    exact make_eq_ok_iff.2 ⟨false, _, found, rfl, rfl⟩
  | true =>
    rw [make_of_found found, TableDiff.alteration_strict compared, TableDiff.enforced, enforced]
    cases diff.warnings <;> rfl

/-- What cannot be planned cannot be planned when drops are strict. -/
theorem make_strict_of_error
    (refused : make ⟨systemColumns, false⟩ names inspector decl = .error fault) :
    make ⟨systemColumns, true⟩ names inspector decl = .error fault ∨
      ¬ inspector.IsStandard ∧ ∃ c ∈ decl.columns, c.isMarkedForDrop = true ∧
        make ⟨systemColumns, true⟩ names inspector decl =
          .error (.missingDrop decl.name c.name) := by
  rcases bind_eq_error_iff.1 refused with unknown | ⟨tableExists, found, h⟩
  · rw [make, unknown]
    exact .inl rfl
  · rcases bind_eq_error_iff.1 h with altered | ⟨diff, -, made⟩
    · cases tableExists with
      | false => cases altered
      | true =>
        rw [make_of_found found]
        rcases TableDiff.alteration_strict_of_error altered with same | ⟨other, c, hc, marked, missing⟩
        · rw [same]
          exact .inl rfl
        · rw [missing]
          exact .inr ⟨other, c, hc, marked, rfl⟩
    · cases made

end Plan

/-! ## Runs -/

namespace Archive

variable {σ : Type} {archive : Archive (StateM σ)} {systemColumns : List String}
  {inspector : Inspector} {now : Instant} {text : String} {s : σ} {trial : Bool} {plan : Plan}

/-- A strict run ends at the first warning of the lenient plan. -/
theorem run_strict_of_warning {first : DiffWarning}
    (planned : ((archive.plan ⟨systemColumns, false⟩ inspector text).run s).1 = .ok plan)
    (alters : plan.tableExists = true) (warned : plan.diff.warnings.head? = some first) :
    (archive.generate ⟨trial, systemColumns, true⟩ inspector now text).run s =
      (.stopped (.missingDrop plan.decl.name first.column), (archive.names.run s).2) := by
  obtain ⟨decl, names, parsed, listed, made⟩ := run_plan_eq_ok_iff.1 planned
  obtain ⟨later, split⟩ := List.head?_eq_some_iff.1 warned
  refine run_generate_of_refused parsed listed ?_
  rw [Plan.make_strict made, Plan.enforced, alters, split]

/-- A run is the same under strict drops if the lenient plan has no warning, or creates the
table. -/
theorem run_strict_of_silent
    (planned : ((archive.plan ⟨systemColumns, false⟩ inspector text).run s).1 = .ok plan)
    (silent : plan.tableExists = true → plan.diff.warnings = []) :
    (archive.generate ⟨trial, systemColumns, true⟩ inspector now text).run s =
      (archive.generate ⟨trial, systemColumns, false⟩ inspector now text).run s := by
  obtain ⟨decl, names, parsed, listed, made⟩ := run_plan_eq_ok_iff.1 planned
  have same : plan.enforced = .ok plan := by
    rw [Plan.enforced]
    cases alters : plan.tableExists with
    | false => rfl
    | true => rw [silent alters]
  rw [run_generate_of_made parsed listed ((Plan.make_strict made).trans same),
    run_generate_of_made parsed listed made]

/-- A run that cannot be planned is the same under strict drops, or ends at a mark for
removal. -/
theorem run_strict_of_refused {fault : Fault}
    (refused : ((archive.plan ⟨systemColumns, false⟩ inspector text).run s).1 = .error fault) :
    (archive.generate ⟨trial, systemColumns, true⟩ inspector now text).run s =
        (archive.generate ⟨trial, systemColumns, false⟩ inspector now text).run s ∨
      ¬ inspector.IsStandard ∧ ∃ decl, TableDecl.parse text = .ok decl ∧
        ∃ c ∈ decl.columns, c.isMarkedForDrop = true ∧
          (archive.generate ⟨trial, systemColumns, true⟩ inspector now text).run s =
            (.stopped (.missingDrop decl.name c.name), (archive.names.run s).2) := by
  cases parsed : TableDecl.parse text with
  | error other =>
    rw [run_generate_of_parse_error parsed, run_generate_of_parse_error parsed]
    exact .inl rfl
  | ok decl =>
    cases listed : (archive.names.run s).1 with
    | error other =>
      rw [run_generate_of_unlisted parsed listed, run_generate_of_unlisted parsed listed]
      exact .inl rfl
    | ok names =>
      rw [run_plan parsed, listed] at refused
      have refused : Plan.make ⟨systemColumns, false⟩ names inspector decl = .error fault := refused
      rcases Plan.make_strict_of_error refused with same | ⟨other, c, hc, marked, missing⟩
      · rw [run_generate_of_refused parsed listed same, run_generate_of_refused parsed listed refused]
        exact .inl rfl
      · exact .inr ⟨other, decl, rfl, c, hc, marked, run_generate_of_refused parsed listed missing⟩

end Archive

/-- **Strict drops refine lenient drops.** On an existing table the lenient comparison with
a known schema has an outcome, and the strict one is the same if there is no warning;
otherwise it is the fault for the column of the first one. On a table that is created both
are the same, whatever is marked for removal. So a strict run is stopped by that fault, with
nothing stored, if the lenient plan alters the table and has a warning, and in all other
cases it does what the lenient run does. An inspector of another kind may fail to look up a
column behind a mark for removal; then the strict run may be stopped at the mark where the
lenient run is stopped later, with nothing stored either. -/
theorem strict_drops_refine_lenient_drops (systemColumns : List String) :
    (∀ catalog decl, ∃ diff,
      TableDiff.compare ⟨systemColumns, false⟩ (.online catalog) decl true = .ok diff ∧
      TableDiff.compare ⟨systemColumns, true⟩ (.online catalog) decl true =
        match diff.warnings with
        | [] => .ok diff
        | first :: _ => .error (.missingDrop decl.name first.column)) ∧
    (∀ inspector decl,
      TableDiff.compare ⟨systemColumns, true⟩ inspector decl false =
        TableDiff.compare ⟨systemColumns, false⟩ inspector decl false) ∧
    ∀ {σ : Type} {archive : Archive (StateM σ)} {content : σ → String → Option String},
      archive.Keeps content → ∀ (trial : Bool) inspector now text s,
        (∀ plan first,
          ((archive.plan ⟨systemColumns, false⟩ inspector text).run s).1 = .ok plan →
          plan.tableExists = true → plan.diff.warnings.head? = some first →
            ((archive.generate ⟨trial, systemColumns, true⟩ inspector now text).run s).1 =
              .stopped (.missingDrop plan.decl.name first.column) ∧
            content ((archive.generate ⟨trial, systemColumns, true⟩ inspector now text).run s).2 =
              content s) ∧
        (∀ plan, ((archive.plan ⟨systemColumns, false⟩ inspector text).run s).1 = .ok plan →
          (plan.tableExists = true → plan.diff.warnings = []) →
            (archive.generate ⟨trial, systemColumns, true⟩ inspector now text).run s =
              (archive.generate ⟨trial, systemColumns, false⟩ inspector now text).run s) ∧
        ∀ fault, ((archive.plan ⟨systemColumns, false⟩ inspector text).run s).1 = .error fault →
          (archive.generate ⟨trial, systemColumns, true⟩ inspector now text).run s =
              (archive.generate ⟨trial, systemColumns, false⟩ inspector now text).run s ∨
            ¬ inspector.IsStandard ∧ ∃ decl, TableDecl.parse text = .ok decl ∧
              ∃ c ∈ decl.columns, c.isMarkedForDrop = true ∧
                ((archive.generate ⟨trial, systemColumns, true⟩ inspector now text).run s).1 =
                  .stopped (.missingDrop decl.name c.name) ∧
                content ((archive.generate ⟨trial, systemColumns, true⟩ inspector now text).run
                  s).2 = content s := by
  refine ⟨fun catalog decl => ?_, fun inspector decl => rfl,
    fun keeps trial inspector now text s => ⟨?_, fun plan => Archive.run_strict_of_silent, ?_⟩⟩
  · obtain ⟨diff, lenient⟩ :=
      @TableDiff.exists_alteration_of_lenient ⟨systemColumns, false⟩ catalog rfl decl
    exact ⟨diff, lenient, TableDiff.alteration_strict lenient⟩
  · intro plan first planned alters warned
    rw [Archive.run_strict_of_warning planned alters warned]
    exact ⟨rfl, keeps.names s⟩
  · intro fault refused
    refine (Archive.run_strict_of_refused refused).imp_right ?_
    rintro ⟨other, decl, parsed, c, hc, marked, stopped⟩
    rw [stopped]
    exact ⟨other, decl, parsed, c, hc, marked, rfl, keeps.names s⟩

namespace GhostNotes

/-- A column of the notes that is not there is to be removed. -/
def text : String := "notes:body:text,ghost:text:drop"

/-- What a run on the notes does. -/
def run (text : String) (strict : Bool) : RunReport × List (String × String) :=
  ((Archive.memory 1).generate ⟨false, DiffOptions.standard.systemColumns, strict⟩
    (.online LongerNotes.before) LongerNotes.start text).run []

/-- The lenient plan of a text, whose warnings are of the given columns. -/
theorem exists_plan {text : String} {columns : List String}
    (planned : (((Archive.memory 1).plan .standard (.online LongerNotes.before) text).run
      []).1.toOption.any (fun plan => plan.tableExists && plan.decl.name == "notes" &&
        plan.diff.warnings.map DiffWarning.column == columns) = true) :
    ∃ plan, (((Archive.memory 1).plan .standard (.online LongerNotes.before) text).run
      []).1 = .ok plan ∧ plan.tableExists = true ∧ plan.decl.name = "notes" ∧
        plan.diff.warnings.map DiffWarning.column = columns := by
  obtain ⟨plan, made, found⟩ := exists_eq_ok_of_any planned
  simp only [Bool.and_eq_true, beq_iff_eq] at found
  exact ⟨plan, made, found.1.1, found.1.2, found.2⟩

end GhostNotes

/-- The notes have no such column, which stops a strict run. Without the mark it makes no
difference that a run is strict. -/
theorem strict_drops_refine_lenient_drops_notes :
    (GhostNotes.run GhostNotes.text true).1 = .stopped (.missingDrop "notes" "ghost") ∧
    GhostNotes.run LongerNotes.text true = GhostNotes.run LongerNotes.text false := by
  have runs := (strict_drops_refine_lenient_drops DiffOptions.standard.systemColumns).2.2
    (Archive.keeps_memory 1) false (.online LongerNotes.before) LongerNotes.start
  constructor
  · obtain ⟨plan, planned, alters, name, columns⟩ :=
      @GhostNotes.exists_plan GhostNotes.text ["ghost"] (by decide +kernel)
    obtain ⟨first, later, warned, column, -⟩ := List.map_eq_cons_iff.1 columns
    have stopped := ((runs GhostNotes.text []).1 plan first planned alters (by rw [warned]; rfl)).1
    rw [name, column] at stopped
    exact stopped
  · obtain ⟨plan, planned, -, -, columns⟩ :=
      @GhostNotes.exists_plan LongerNotes.text [] (by decide +kernel)
    exact (runs LongerNotes.text []).2.1 plan planned fun _ => List.map_eq_nil_iff.1 columns

end SchemaPlan
