import SchemaPlan.Proofs.Emission
import SchemaPlan.Proofs.Planning

/-!
# The values of enumerations

A database cannot make an enumeration without its values. A declared column brings them
along: without them it has no specification at all (`ColumnSpec.values_ne_nil_of_ofDecl`). A
column that is put back from the schema does not, for what is kept of it is the canonical
name of its type, and the name of an enumeration does not tell its values
(`ColumnSpec.of_restore_enum`).

So all depends on which of the two an operation is made from. What makes a change is made
from the declaration. What takes it back is made from the schema where a column has been
modified, and where a column of another declared kind has been dropped; only an enumeration
that is dropped under its own kind is put back from the declaration
(`enumerations_of_artifacts`).
-/

namespace SchemaPlan

namespace TypeName

variable {live : String}

@[simp] theorem storage_enum : storage .enum = "enum" := by decide +kernel

/-- An enumeration agrees with enumerations. -/
theorem agrees_enum_iff : agrees .enum live = true ↔ canonical live = "enum" := by
  have none : ∀ x, (ColumnKind.enum, x) ∉ standIns := fun x => by simp [standIns]
  simp [agrees_iff_storage, or_iff_left (none _)]

end TypeName

namespace ColumnSpec

variable {column : ColumnDecl} {spec declared : ColumnSpec} {name type : String} {nullable : Bool}

/-! ## Specifications of enumerations -/

/-- **A declared enumeration has values**, since a declaration without them has
no specification. -/
theorem values_ne_nil_of_ofDecl (h : ofDecl column = .ok spec) (enum : spec.kind = .enum) :
    spec.values ≠ [] := by
  have read := (isReadFrom_of_ofDecl h).values
  have kind : column.kind = .enum := (of_ofDecl h).2.1 ▸ enum
  rw [readValues, kind, if_pos (beq_self_eq_true _)] at read
  cases listed : column.list? "values" with
  | none =>
    rw [listed] at read
    cases read
  | some items =>
    cases items with
    | nil =>
      rw [listed] at read
      cases read
    | cons first rest =>
      rw [listed] at read
      rw [← Except.ok.inj read]
      exact List.cons_ne_nil first rest

/-- **A restored enumeration has none.** It is restored from the name of its type. -/
theorem of_restore_enum (h : restore name type nullable = .ok spec) (enum : spec.kind = .enum) :
    type = "enum" ∧ spec.values = [] := by
  obtain ⟨-, stored, -, -⟩ := of_restore h
  rw [enum, TypeName.storage_enum] at stored
  refine ⟨stored.symm, ?_⟩
  unfold restore at h
  split at h
  · cases h
    rfl
  · cases h

/-- An enumeration that was dropped is put back from its declaration if that is of an
enumeration as well, and else from the name of its type. -/
theorem of_restoreDropped_enum {type : Option String}
    (h : declared.restoreDropped type nullable = .ok spec) (enum : spec.kind = .enum) :
    type = none ∧ declared.kind = .enum ∧ spec.values = declared.values ∨
      type = some "enum" ∧ spec.values = [] := by
  unfold restoreDropped at h
  cases type with
  | none =>
    cases h
    exact .inl ⟨rfl, enum, rfl⟩
  | some liveType =>
    obtain ⟨restored, back, h⟩ := bind_eq_ok_iff.1 h
    cases h
    obtain ⟨rfl, none⟩ := of_restore_enum back enum
    exact .inr ⟨rfl, none⟩

end ColumnSpec

/-! ## The columns that operations describe -/

namespace Operation

/-- The column that an operation describes, to add it or to change another into it. -/
def described? : Operation → Option ColumnSpec
  | addColumn spec => some spec
  | changeColumn spec => some spec
  | _ => none

/-- **The columns that operations describe**, in order. These are all the
specifications that stand in an artifact. -/
def described (operations : List Operation) : List ColumnSpec :=
  operations.filterMap described?

variable {α : Type}

@[simp] theorem described_append (first second : List Operation) :
    described (first ++ second) = described first ++ described second :=
  List.filterMap_append

@[simp] theorem described_map_addColumn (f : α → ColumnSpec) (l : List α) :
    described (l.map fun a => .addColumn (f a)) = l.map f := by
  rw [described, List.filterMap_map, ← List.filterMap_eq_map]
  rfl

@[simp] theorem described_map_changeColumn (f : α → ColumnSpec) (l : List α) :
    described (l.map fun a => .changeColumn (f a)) = l.map f := by
  rw [described, List.filterMap_map, ← List.filterMap_eq_map]
  rfl

@[simp] theorem described_removal (spec : ColumnSpec) : described spec.removal = [] := by
  unfold ColumnSpec.removal
  split <;> rfl

/-- What removes columns describes none. So of a removal only the inverse can
be wanting. -/
@[simp] theorem described_flatMap_removal (f : α → ColumnSpec) (l : List α) :
    described (l.flatMap fun a => (f a).removal) = [] := by
  induction l with
  | nil => rfl
  | cons a rest ih => rw [List.flatMap_cons, described_append, ih, described_removal]; rfl

/-- A table is created with the columns that are specified. -/
@[simp] theorem described_creationOf (decl : TableDecl) (specs : List ColumnSpec) :
    described (TableDiff.creationOf decl specs).forward = specs := by
  rw [described, TableDiff.filterMap_creationOf rfl rfl rfl]
  show specs.filterMap some ++ (decl.indexes.filterMap fun _ => none) = specs
  rw [List.filterMap_some, List.filterMap_eq_nil_iff.2 fun _ _ => rfl, List.append_nil]

end Operation

/-! ## The artifacts of an alteration -/

namespace AlterationSpecs

variable {specs : AlterationSpecs} {body : ArtifactBody} {spec : ColumnSpec}

/-- What makes an alteration describes the columns that are added and those that are modified,
as they are declared. -/
theorem mem_of_described_forward (hb : body ∈ specs.bodies)
    (hs : spec ∈ Operation.described body.forward) :
    spec ∈ specs.added ∨ ∃ previous, (spec, previous) ∈ specs.modified := by
  simp only [bodies, List.mem_append, TableDiff.mem_bodyOf_iff] at hb
  rcases hb with (⟨-, rfl⟩ | ⟨-, rfl⟩) | ⟨-, rfl⟩
  · have added : spec ∈ specs.added.map fun spec => spec :=
      Operation.described_map_addColumn (fun spec => spec) specs.added ▸ hs
    exact .inl (List.map_id' specs.added ▸ added)
  · have modified : spec ∈ specs.modified.map Prod.fst :=
      Operation.described_map_changeColumn Prod.fst specs.modified ▸ hs
    obtain ⟨⟨_, previous⟩, hp, rfl⟩ := List.mem_map.1 modified
    exact .inr ⟨previous, hp⟩
  · have none : spec ∈ [] := Operation.described_flatMap_removal Prod.fst specs.dropped ▸ hs
    exact absurd none List.not_mem_nil

/-- What takes it back describes the columns that are modified and those that are dropped, as
they were. -/
theorem mem_of_described_inverse (hb : body ∈ specs.bodies)
    (hs : spec ∈ Operation.described body.inverse) :
    (∃ declared, (declared, spec) ∈ specs.modified) ∨
      ∃ declared, (declared, spec) ∈ specs.dropped := by
  simp only [bodies, List.mem_append, TableDiff.mem_bodyOf_iff] at hb
  rcases hb with (⟨-, rfl⟩ | ⟨-, rfl⟩) | ⟨-, rfl⟩
  · have none : spec ∈ [] :=
      Operation.described_flatMap_removal (fun spec => spec) specs.added ▸ hs
    exact absurd none List.not_mem_nil
  · have modified : spec ∈ specs.modified.map Prod.snd :=
      Operation.described_map_changeColumn Prod.snd specs.modified ▸ hs
    obtain ⟨⟨declared, _⟩, hp, rfl⟩ := List.mem_map.1 modified
    exact .inl ⟨declared, hp⟩
  · have dropped : spec ∈ specs.dropped.map Prod.snd :=
      Operation.described_map_addColumn Prod.snd specs.dropped ▸ hs
    obtain ⟨⟨declared, _⟩, hp, rfl⟩ := List.mem_map.1 dropped
    exact .inr ⟨declared, hp⟩

namespace Describes

variable {options : DiffOptions} {catalog : Catalog} {decl : TableDecl} {declared : ColumnSpec}

/-- A modified column that was an enumeration has no values when it is changed back. -/
theorem of_mem_modified_enum (h : specs.Describes options catalog decl)
    (hp : (declared, spec) ∈ specs.modified) (enum : spec.kind = .enum) :
    spec.values = [] ∧ ∃ c ∈ decl.columns, c.name = spec.name ∧ c.isMarkedForDrop = false ∧
      ∃ live, catalog.column? decl.name c.name = some live ∧
        TypeName.canonical live.type = "enum" := by
  obtain ⟨c, hc, type, nullable, called, -, back⟩ := (h.mem_modified_iff declared spec).1 hp
  obtain ⟨live, found, kept, -, -, canonical, -⟩ :=
    TableDiff.actionFor_eq_modified_iff.1 (TableDiff.actionFor_of_verdict called nofun).2
  obtain ⟨named, none⟩ := ColumnSpec.of_restore_enum back enum
  have same : c.name = spec.name := (ColumnSpec.of_restore back).1.symm
  exact ⟨none, c, hc, same, kept, live, found, canonical.symm.trans named⟩

/-- A dropped column that was an enumeration has values when it is put back just if it is
declared as one. -/
theorem of_mem_dropped_enum (h : specs.Describes options catalog decl)
    (hp : (declared, spec) ∈ specs.dropped) (enum : spec.kind = .enum) :
    ∃ c ∈ decl.columns, c.name = spec.name ∧ c.isMarkedForDrop = true ∧
      (∃ live, catalog.column? decl.name c.name = some live ∧
        TypeName.canonical live.type = "enum") ∧
      (spec.values = [] ↔ c.kind ≠ .enum) := by
  obtain ⟨c, hc, type, nullable, called, described, back⟩ :=
    (h.mem_dropped_iff declared spec).1 hp
  obtain ⟨live, found, marked, -, compared, -⟩ :=
    TableDiff.actionFor_eq_dropped_iff.1 (TableDiff.actionFor_of_verdict called nofun).2
  obtain ⟨name, kind, -, -⟩ := ColumnSpec.of_ofDecl described
  have same : c.name = spec.name := ((ColumnSpec.of_restoreDropped back).1.trans name).symm
  refine ⟨c, hc, same, marked, ?_⟩
  rcases ColumnSpec.of_restoreDropped_enum back enum with
    ⟨rfl, own, kept⟩ | ⟨rfl, none⟩
  · -- the declared type stands for the live one, so the live one is an enumeration as well
    have agreed : TypeName.agrees c.kind live.type = true := by
      by_contra differs
      rw [if_neg differs] at compared
      cases compared
    have declaredEnum : c.kind = .enum := kind.symm.trans own
    rw [declaredEnum] at agreed
    refine ⟨⟨live, found, TypeName.agrees_enum_iff.1 agreed⟩, iff_of_false ?_ ?_⟩
    · rw [kept]
      exact ColumnSpec.values_ne_nil_of_ofDecl described own
    · exact not_not_intro declaredEnum
  · have differs : ¬ TypeName.agrees c.kind live.type = true := by
      intro agreed
      rw [if_pos agreed] at compared
      cases compared
    rw [if_neg differs] at compared
    have canonical : TypeName.canonical live.type = "enum" := (Option.some.inj compared).symm
    exact ⟨⟨live, found, canonical⟩,
      iff_of_true none fun own => differs (own ▸ TypeName.agrees_enum_iff.2 canonical)⟩

end Describes

end AlterationSpecs

/-! ## Runs -/

/-- **Where the artifacts of a run have enumerations with values, and where not.** Every
enumeration that a change makes has values. Among the columns that are described to take it
back, an enumeration is one in the schema; it has no values if the column has been modified,
or dropped under another declared kind, and it has those declared for it otherwise. -/
theorem enumerations_of_artifacts {σ : Type} {archive : Archive (StateM σ)} {options : RunOptions}
    {catalog : Catalog} {now : Instant} {text : String} {s : σ} {decl : TableDecl}
    (parsed : TableDecl.parse text = .ok decl) {artifact : Artifact}
    (made : artifact ∈
      ((archive.generate options (.online catalog) now text).run s).1.artifacts) :
    (∀ spec ∈ Operation.described artifact.forward, spec.kind = .enum → spec.values ≠ []) ∧
    ∀ spec ∈ Operation.described artifact.inverse, spec.kind = .enum →
      ∃ c ∈ decl.columns, c.name = spec.name ∧
        (∃ live, catalog.column? decl.name c.name = some live ∧
          TypeName.canonical live.type = "enum") ∧
        (spec.values = [] ↔ c.isMarkedForDrop = false ∨ c.kind ≠ .enum) := by
  obtain ⟨tableExists, diff, artifacts, compared, called, mem⟩ :=
    Archive.exists_compare_of_mem_artifacts parsed made
  cases tableExists with
  | false =>
    -- the table is created, and what takes that back drops it
    cases compared
    obtain ⟨specs, only, described, rfl, -, body⟩ := TableDiff.exists_specs_of_creation called
    cases List.mem_singleton.1 mem
    have forward : artifact.forward = (TableDiff.creationOf decl specs).forward :=
      congrArg ArtifactBody.forward body
    have inverse : artifact.inverse = [.dropTable] := congrArg ArtifactBody.inverse body
    rw [forward, inverse, Operation.described_creationOf]
    refine ⟨fun spec hs enum => ?_, fun spec hs => absurd hs List.not_mem_nil⟩
    obtain ⟨c, -, declared⟩ := (mem_iff_of_mapM_eq_ok described).1 hs
    exact ColumnSpec.values_ne_nil_of_ofDecl declared enum
  | true =>
    obtain ⟨specs, describes, bodies⟩ :=
      TableDiff.exists_specs_of_bodies compared (TableDiff.of_artifacts called).1
    have body : artifact.body ∈ specs.bodies := bodies ▸ List.mem_map_of_mem mem
    refine ⟨fun spec hs enum => ?_, fun spec hs enum => ?_⟩
    · have declared : ∃ c, ColumnSpec.ofDecl c = .ok spec := by
        rcases specs.mem_of_described_forward body hs with added | ⟨previous, modified⟩
        · obtain ⟨c, -, -, made⟩ := (describes.mem_added_iff spec).1 added
          exact ⟨c, made⟩
        · obtain ⟨c, -, _, _, -, made, -⟩ := (describes.mem_modified_iff _ _).1 modified
          exact ⟨c, made⟩
      obtain ⟨c, made⟩ := declared
      exact ColumnSpec.values_ne_nil_of_ofDecl made enum
    · rcases specs.mem_of_described_inverse body hs with ⟨declared, hp⟩ | ⟨declared, hp⟩
      · obtain ⟨none, c, hc, name, kept, live⟩ := describes.of_mem_modified_enum hp enum
        exact ⟨c, hc, name, live, iff_of_true none (.inl kept)⟩
      · obtain ⟨c, hc, name, marked, live, values⟩ := describes.of_mem_dropped_enum hp enum
        refine ⟨c, hc, name, live, values.trans (or_iff_right ?_).symm⟩
        rw [marked]
        exact Bool.noConfusion

namespace DraftOrders

/-- Orders with two enumerations. -/
def before : Catalog :=
  ⟨[⟨"orders", [⟨"status", "enum('draft','paid')", false, none⟩,
    ⟨"grade", "enum('a','b')", false, none⟩]⟩]⟩

/-- One of them is to be a text, and the other is to go. -/
def text : String := "orders:status:string,grade:enum:values=a|b:drop"

/-- The orders that the text declares. -/
def decl : TableDecl where
  name := "orders"
  columns :=
    [.new "status" .string,
      { ColumnDecl.new "grade" .enum with
        options := .ofList [("drop", .flag), ("values", .list ["a", "b"])] }]
  flags := ⟨false, false⟩
  indexes := []

/-- The artifact for the status. -/
def changed : Artifact where
  kind := .modifyColumns
  table := "orders"
  createdAt := LongerNotes.start
  forward := [.changeColumn (.new "status" .string)]
  inverse := [.changeColumn (.new "status" .enum)]

/-- The artifact for the grade. -/
def removed : Artifact where
  kind := .dropColumns
  table := "orders"
  createdAt := (LongerNotes.start.later? 1).get (by decide)
  forward := [.dropColumn "grade"]
  inverse := [.addColumn { ColumnSpec.new "grade" .enum with values := ["a", "b"] }]

/-- What a run makes of them. -/
def report : RunReport :=
  (((Archive.memory 2).generate ⟨false, .standard⟩ (.online before) LongerNotes.start text).run
    []).1

theorem parsed : TableDecl.parse text = .ok decl := eq_ok_of_any_beq (by decide +kernel)

theorem artifacts_report : report.artifacts = [changed, removed] := by
  have listed : ((Archive.memory 2).names.run []).1 = .ok [] := rfl
  have called : (Plan.make .standard [] (.online before) decl >>= fun plan =>
      plan.artifacts LongerNotes.start) = .ok [changed, removed] :=
    eq_ok_of_any_beq (by decide +kernel)
  rw [report, Archive.run_generate_of_listed parsed listed, called]
  exact Archive.artifacts_carryOut false _ _

end DraftOrders

/-- The grade is put back with its values, for it is dropped as what it is. -/
theorem enumerations_of_artifacts_orders : DraftOrders.removed ∈ DraftOrders.report.artifacts ∧
    ∀ spec ∈ Operation.described DraftOrders.removed.inverse, spec.kind = .enum →
      spec.values ≠ [] := by
  have made : DraftOrders.removed ∈ DraftOrders.report.artifacts := by
    rw [DraftOrders.artifacts_report]
    exact List.mem_cons_of_mem _ List.mem_cons_self
  refine ⟨made, fun spec hs enum none => ?_⟩
  rw [DraftOrders.report] at made
  obtain ⟨c, hc, name, -, values⟩ :=
    (enumerations_of_artifacts DraftOrders.parsed made).2 spec hs enum
  have own : ∀ c ∈ DraftOrders.decl.columns, c.name = "grade" →
      c.isMarkedForDrop = true ∧ c.kind = .enum := by decide +kernel
  have named : spec.name = "grade" := by
    cases List.mem_singleton.1 hs
    rfl
  obtain ⟨marked, kind⟩ := own c hc (name.trans named)
  rcases values.1 none with kept | other
  · cases marked.symm.trans kept
  · exact other kind

/-- The status cannot be made what it was: its values are lost. -/
theorem modified_enumeration_has_no_values :
    TableDecl.parse DraftOrders.text = .ok DraftOrders.decl ∧
    ∃ artifact ∈ DraftOrders.report.artifacts, ∃ spec ∈ Operation.described artifact.inverse,
      spec.kind = .enum ∧ spec.values = [] := by
  refine ⟨DraftOrders.parsed, DraftOrders.changed, ?_, .new "status" .enum, by decide, rfl, rfl⟩
  rw [DraftOrders.artifacts_report]
  exact List.mem_cons_self

end SchemaPlan
