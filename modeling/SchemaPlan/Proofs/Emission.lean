import SchemaPlan.Proofs.Buckets
import SchemaPlan.Proofs.TypeStorage
import SchemaPlan.TableDiff.Artifacts

/-!
# The artifacts of a comparison, described

Making artifacts can fail at every column. Where it succeeds the operations
are built from specifications, and what holds of a specification follows from
the verdict on its column. `AlterationSpecs` collects the three lists of
specifications that the artifacts of an alteration speak of,
`AlterationSpecs.Describes` says which columns they are and what was live
there, and `TableDiff.exists_specs_of_bodies` finds them for every alteration
that can be made. Nothing after this module opens the making of artifacts.
-/

namespace SchemaPlan

namespace ColumnSpec

variable {column : ColumnDecl} {spec declared : ColumnSpec} {name type : String} {nullable : Bool}

theorem isSome_of_readForeign {foreign : Option ForeignKey} (h : readForeign column = .ok foreign) :
    foreign.isSome = column.isForeignKey := by
  unfold readForeign at h
  split at h
  · rename_i key
    obtain ⟨onDelete, -, h⟩ := bind_eq_ok_iff.1 h
    obtain ⟨onUpdate, -, h⟩ := bind_eq_ok_iff.1 h
    cases h
    exact key.symm
  · rename_i key
    cases h
    exact (Bool.not_eq_true _ ▸ key : column.isForeignKey = false).symm

/-- **What a specification says is read from a declaration**, part by part.
Length, precision and the like are left out, since a live column does not
record them. -/
structure IsReadFrom (spec : ColumnSpec) (column : ColumnDecl) : Prop where
  /-- The name is the declared one. -/
  name_eq : spec.name = column.name
  /-- The kind is the declared one. -/
  kind_eq : spec.kind = column.kind
  /-- The nullability is the declared one. -/
  nullable_eq : spec.nullable = column.isNullable
  /-- The values are read from the option for them. -/
  values : readValues column = .ok spec.values
  /-- The foreign key is read from the options for it. -/
  foreign : readForeign column = .ok spec.foreign

theorem isReadFrom_of_ofDecl (h : ofDecl column = .ok spec) : spec.IsReadFrom column := by
  obtain ⟨length, -, h⟩ := bind_eq_ok_iff.1 h
  obtain ⟨precision, -, h⟩ := bind_eq_ok_iff.1 h
  obtain ⟨values, listed, h⟩ := bind_eq_ok_iff.1 h
  obtain ⟨default, -, h⟩ := bind_eq_ok_iff.1 h
  obtain ⟨foreign, referred, h⟩ := bind_eq_ok_iff.1 h
  cases h
  exact ⟨rfl, rfl, rfl, listed, referred⟩

/-- A specification has the name, the kind and the nullability of its
declaration, and a foreign key where that refers to another table. -/
theorem of_ofDecl (h : ofDecl column = .ok spec) :
    spec.name = column.name ∧ spec.kind = column.kind ∧ spec.nullable = column.isNullable ∧
      spec.foreign.isSome = column.isForeignKey := by
  have read := isReadFrom_of_ofDecl h
  exact ⟨read.name_eq, read.kind_eq, read.nullable_eq, isSome_of_readForeign read.foreign⟩

/-- The foreign key of a specification is the declared one. -/
theorem readForeign_of_ofDecl (h : ofDecl column = .ok spec) :
    readForeign column = .ok spec.foreign :=
  (isReadFrom_of_ofDecl h).foreign

/-- A restored column is stored as the type it is restored to. Of the live
column the name, the type and the nullability are known, and nothing else is
made up. -/
theorem of_restore (h : restore name type nullable = .ok spec) :
    spec.name = name ∧ TypeName.storage spec.kind = type ∧ spec.nullable = nullable ∧
      spec.foreign = none := by
  unfold restore at h
  split at h
  · rename_i kind hk
    cases h
    exact ⟨rfl, TypeName.storage_of_kindStoredAs? hk, rfl, rfl⟩
  · cases h

/-- A dropped column is put back with its live nullability and its declared
foreign key, and with its live type where that is not the declared one. -/
theorem of_restoreDropped {type : Option String}
    (h : declared.restoreDropped type nullable = .ok spec) :
    spec.name = declared.name ∧
      TypeName.storage spec.kind = type.getD (TypeName.storage declared.kind) ∧
      spec.nullable = nullable ∧ spec.foreign = declared.foreign := by
  unfold restoreDropped at h
  cases type with
  | none =>
    cases h
    exact ⟨rfl, by rw [Option.getD_none], rfl, rfl⟩
  | some liveType =>
    obtain ⟨restored, hr, h⟩ := bind_eq_ok_iff.1 h
    cases h
    obtain ⟨sameName, stored, sameNullable, -⟩ := of_restore hr
    exact ⟨sameName, by rw [Option.getD_some]; exact stored, sameNullable, rfl⟩

end ColumnSpec

/-! ## Artifacts and their bodies -/

/-- An artifact without its table and its time. -/
def Artifact.body (artifact : Artifact) : ArtifactBody :=
  ⟨artifact.kind, artifact.forward, artifact.inverse⟩

theorem Artifact.map_kind (artifacts : List Artifact) :
    artifacts.map kind = (artifacts.map body).map ArtifactBody.kind := by
  rw [List.map_map]
  rfl

namespace TableDiff

variable {diff : TableDiff} {decl : TableDecl} {now : Instant} {artifacts : List Artifact}

/-- The first body is dated at the given second, and the others from the next one on. -/
theorem dated_cons_eq_ok_iff {table : String} {seconds : Nat} {body : ArtifactBody}
    {rest : List ArtifactBody} :
    dated table now seconds (body :: rest) = .ok artifacts ↔
      ∃ time later, now.later? seconds = some time ∧
        dated table now (seconds + 1) rest = .ok later ∧
        artifacts = ⟨body.kind, table, time, body.forward, body.inverse⟩ :: later := by
  rw [dated]
  cases now.later? seconds with
  | none => simp
  | some time => simp [bind_eq_ok_iff, pure, Except.pure, @eq_comm _ artifacts]

/-- Dating bodies gives them their table and changes nothing else. What is
shown of the bodies of a comparison so holds of its artifacts. -/
theorem of_dated {table : String} {seconds : Nat} {bodies : List ArtifactBody}
    (h : dated table now seconds bodies = .ok artifacts) :
    artifacts.map Artifact.body = bodies ∧ ∀ artifact ∈ artifacts, artifact.table = table := by
  induction bodies generalizing seconds artifacts with
  | nil =>
    cases h
    exact ⟨rfl, fun _ ha => absurd ha List.not_mem_nil⟩
  | cons body rest ih =>
    obtain ⟨time, later, -, tail, rfl⟩ := dated_cons_eq_ok_iff.1 h
    obtain ⟨bodies, tables⟩ := ih tail
    exact ⟨congrArg (body :: ·) bodies, List.forall_mem_cons.2 ⟨rfl, tables⟩⟩

theorem of_artifacts (h : diff.artifacts decl now = .ok artifacts) :
    diff.bodies decl = .ok (artifacts.map Artifact.body) ∧
      ∀ artifact ∈ artifacts, artifact.table = diff.table := by
  obtain ⟨bodies, made, h⟩ := bind_eq_ok_iff.1 h
  obtain ⟨rfl, tables⟩ := of_dated h
  exact ⟨made, tables⟩

end TableDiff

/-! ## The specifications of an alteration -/

/-- The specifications that the artifacts of an alteration speak of. Everything
that is proved of an alteration is proved of these three lists, and the
declaration is only looked at to say which columns are in them. -/
structure AlterationSpecs where
  /-- The columns that are added. -/
  added : List ColumnSpec
  /-- The columns that are modified, each as it is to be and as it was. -/
  modified : List (ColumnSpec × ColumnSpec)
  /-- The columns that are dropped, each as declared and as it is put back. -/
  dropped : List (ColumnSpec × ColumnSpec)

@[simp] theorem TableDiff.mem_bodyOf_iff {kind : ArtifactKind} {forward inverse : List Operation}
    {body : ArtifactBody} :
    body ∈ bodyOf kind forward inverse ↔ forward ≠ [] ∧ body = ⟨kind, forward, inverse⟩ := by
  unfold bodyOf
  cases forward with
  | nil => simp
  | cons operation rest => simp

namespace AlterationSpecs

/-- The operations that add the new columns. -/
def additions (specs : AlterationSpecs) : List Operation :=
  specs.added.map .addColumn

/-- The operations that change the modified columns. -/
def changes (specs : AlterationSpecs) : List Operation :=
  specs.modified.map fun (declared, _) => .changeColumn declared

/-- The operations that remove the dropped columns. -/
def removals (specs : AlterationSpecs) : List Operation :=
  specs.dropped.flatMap fun (declared, _) => declared.removal

/-- The bodies of the artifacts, in order. -/
def bodies (specs : AlterationSpecs) : List ArtifactBody :=
  TableDiff.bodyOf .addColumns specs.additions (specs.added.flatMap ColumnSpec.removal) ++
    TableDiff.bodyOf .modifyColumns specs.changes
      (specs.modified.map fun (_, previous) => .changeColumn previous) ++
    TableDiff.bodyOf .dropColumns specs.removals
      (specs.dropped.map fun (_, previous) => .addColumn previous)

/-- There is at most one artifact of each kind, and they come in this order. A
kind without a column has no artifact. -/
theorem kinds_sublist (specs : AlterationSpecs) :
    (specs.bodies.map ArtifactBody.kind).Sublist [.addColumns, .modifyColumns, .dropColumns] := by
  have one (kind : ArtifactKind) (forward inverse : List Operation) :
      ((TableDiff.bodyOf kind forward inverse).map ArtifactBody.kind).Sublist [kind] := by
    unfold TableDiff.bodyOf
    split
    · exact List.nil_sublist [kind]
    · exact .refl [kind]
  rw [bodies, List.map_append, List.map_append]
  exact ((one .addColumns _ _).append (one .modifyColumns _ _)).append (one .dropColumns _ _)

/-- None of them creates a table. -/
theorem kind_of_mem_bodies {specs : AlterationSpecs} {body : ArtifactBody}
    (h : body ∈ specs.bodies) : body.kind ≠ .create := by
  intro creates
  have listed := specs.kinds_sublist.subset (List.mem_map_of_mem h)
  rw [creates] at listed
  exact absurd listed (by decide)

theorem length_bodies_le (specs : AlterationSpecs) : specs.bodies.length ≤ 3 := by
  rw [← List.length_map ArtifactBody.kind]
  exact specs.kinds_sublist.length_le

/-- The names of the modified columns. -/
def modifiedNames (specs : AlterationSpecs) : List String :=
  specs.modified.map fun (declared, _) => declared.name

/-- The names of the dropped columns. -/
def droppedNames (specs : AlterationSpecs) : List String :=
  specs.dropped.map fun (declared, _) => declared.name

/-- **The specifications are those of a declaration in a known schema**: one
for each column whose verdict is to add, to modify or to drop it, in declared
order. -/
structure Describes (specs : AlterationSpecs) (options : DiffOptions) (catalog : Catalog)
    (decl : TableDecl) : Prop where
  /-- The added columns are the new ones. -/
  mem_added_iff : ∀ spec, spec ∈ specs.added ↔ ∃ c ∈ decl.columns,
    TableDiff.verdict options catalog decl.name c = some (.new c) ∧ ColumnSpec.ofDecl c = .ok spec
  /-- A modified column is restored to its canonical live type. -/
  mem_modified_iff : ∀ declared previous, (declared, previous) ∈ specs.modified ↔
    ∃ c ∈ decl.columns, ∃ type nullable,
      TableDiff.verdict options catalog decl.name c = some (.modified c type nullable) ∧
        ColumnSpec.ofDecl c = .ok declared ∧
        ColumnSpec.restore c.name type nullable = .ok previous
  /-- A dropped column is put back from its declaration and its live type. -/
  mem_dropped_iff : ∀ declared previous, (declared, previous) ∈ specs.dropped ↔
    ∃ c ∈ decl.columns, ∃ type nullable,
      TableDiff.verdict options catalog decl.name c =
          some (.dropped c.withoutDrop type nullable) ∧
        ColumnSpec.ofDecl c.withoutDrop = .ok declared ∧
        declared.restoreDropped type nullable = .ok previous
  /-- Every new column is added. -/
  exists_added : ∀ c ∈ decl.columns,
    TableDiff.verdict options catalog decl.name c = some (.new c) →
      ∃ spec ∈ specs.added, ColumnSpec.ofDecl c = .ok spec
  /-- Every column of another type or nullability is modified. -/
  exists_modified : ∀ c ∈ decl.columns, ∀ type nullable,
    TableDiff.verdict options catalog decl.name c = some (.modified c type nullable) →
      ∃ pair ∈ specs.modified, ColumnSpec.ofDecl c = .ok pair.1
  /-- Every live column that is marked for removal is dropped. -/
  exists_dropped : ∀ c ∈ decl.columns, ∀ type nullable,
    TableDiff.verdict options catalog decl.name c = some (.dropped c.withoutDrop type nullable) →
      ∃ pair ∈ specs.dropped, ColumnSpec.ofDecl c.withoutDrop = .ok pair.1
  /-- The added columns come in declared order. -/
  added_sublist : (specs.added.map fun spec => spec.name).Sublist decl.columnNames
  /-- The modified columns come in declared order. -/
  modified_sublist : specs.modifiedNames.Sublist decl.columnNames
  /-- The dropped columns come in declared order. -/
  dropped_sublist : specs.droppedNames.Sublist decl.columnNames

end AlterationSpecs

namespace TableDiff

variable {options : DiffOptions} {catalog : Catalog} {decl : TableDecl} {diff : TableDiff}

theorem additionBody_eq_ok {bodies : List ArtifactBody} (h : diff.additionBody = .ok bodies) :
    ∃ added, diff.newColumns.mapM ColumnSpec.ofDecl = .ok added ∧
      bodies = bodyOf .addColumns (added.map .addColumn) (added.flatMap ColumnSpec.removal) := by
  obtain ⟨added, hadded, h⟩ := bind_eq_ok_iff.1 h
  cases h
  exact ⟨added, hadded, rfl⟩

theorem modificationBody_eq_ok {bodies : List ArtifactBody}
    (h : diff.modificationBody = .ok bodies) :
    ∃ modified, (diff.modifiedColumns.mapM fun m => modification m.1 m.2.1 m.2.2) = .ok modified ∧
      bodies = bodyOf .modifyColumns (modified.map fun p => .changeColumn p.1)
        (modified.map fun p => .changeColumn p.2) := by
  obtain ⟨modified, hmodified, h⟩ := bind_eq_ok_iff.1 h
  cases h
  exact ⟨modified, hmodified, rfl⟩

theorem removalBody_eq_ok {bodies : List ArtifactBody} (h : diff.removalBody = .ok bodies) :
    ∃ dropped, (diff.droppedColumns.mapM fun d => replacement d.1 d.2.1 d.2.2) = .ok dropped ∧
      bodies = bodyOf .dropColumns (dropped.flatMap fun p => p.1.removal)
        (dropped.map fun p => .addColumn p.2) := by
  obtain ⟨dropped, hdropped, h⟩ := bind_eq_ok_iff.1 h
  cases h
  exact ⟨dropped, hdropped, rfl⟩

theorem modification_eq_ok_iff {column : ColumnDecl} {type : String} {nullable : Bool}
    {declared previous : ColumnSpec} :
    modification column type nullable = .ok (declared, previous) ↔
      ColumnSpec.ofDecl column = .ok declared ∧
        ColumnSpec.restore column.name type nullable = .ok previous := by
  simp only [modification, bind_eq_ok_iff, pure, Except.pure, Except.ok.injEq, Prod.mk.injEq]
  constructor
  · rintro ⟨_, hd, _, hp, rfl, rfl⟩
    exact ⟨hd, hp⟩
  · rintro ⟨hd, hp⟩
    exact ⟨_, hd, _, hp, rfl, rfl⟩

theorem replacement_eq_ok_iff {column : ColumnDecl} {type : Option String} {nullable : Bool}
    {declared previous : ColumnSpec} :
    replacement column type nullable = .ok (declared, previous) ↔
      ColumnSpec.ofDecl column = .ok declared ∧
        declared.restoreDropped type nullable = .ok previous := by
  simp only [replacement, bind_eq_ok_iff, pure, Except.pure, Except.ok.injEq, Prod.mk.injEq]
  constructor
  · rintro ⟨_, hd, _, hp, rfl, rfl⟩
    exact ⟨hd, hp⟩
  · rintro ⟨hd, hp⟩
    exact ⟨_, hd, _, hp, rfl, rfl⟩

/-- The artifacts for a table that exists are made of specifications of its new,
modified and dropped columns. -/
theorem exists_specs_of_alter (alters : diff.tableAction = .alter) {bodies : List ArtifactBody}
    (made : diff.bodies decl = .ok bodies) : ∃ specs : AlterationSpecs, bodies = specs.bodies ∧
      diff.newColumns.mapM ColumnSpec.ofDecl = .ok specs.added ∧
      (diff.modifiedColumns.mapM fun m => modification m.1 m.2.1 m.2.2) = .ok specs.modified ∧
      (diff.droppedColumns.mapM fun d => replacement d.1 d.2.1 d.2.2) = .ok specs.dropped := by
  rw [TableDiff.bodies, alters] at made
  obtain ⟨_, add, made⟩ := bind_eq_ok_iff.1 made
  obtain ⟨_, modify, made⟩ := bind_eq_ok_iff.1 made
  obtain ⟨_, drop, made⟩ := bind_eq_ok_iff.1 made
  cases made
  obtain ⟨added, hadded, rfl⟩ := additionBody_eq_ok add
  obtain ⟨modified, hmodified, rfl⟩ := modificationBody_eq_ok modify
  obtain ⟨dropped, hdropped, rfl⟩ := removalBody_eq_ok drop
  exact ⟨⟨added, modified, dropped⟩, rfl, hadded, hmodified, hdropped⟩

/-- No artifact for a table that exists creates a table. -/
theorem kind_of_alter (alters : diff.tableAction = .alter) {bodies : List ArtifactBody}
    (made : diff.bodies decl = .ok bodies) : ∀ body ∈ bodies, body.kind ≠ .create := by
  obtain ⟨specs, rfl, -⟩ := exists_specs_of_alter alters made
  exact fun body => AlterationSpecs.kind_of_mem_bodies

/-- **The bodies of an alteration are those of its specifications.** From here
on an alteration is known by three lists of specifications, and nothing is said
of how they were computed. -/
theorem exists_specs_of_bodies (h : alteration options (.online catalog) decl = .ok diff)
    {bodies : List ArtifactBody} (made : diff.bodies decl = .ok bodies) :
    ∃ specs : AlterationSpecs, specs.Describes options catalog decl ∧ bodies = specs.bodies := by
  obtain ⟨⟨added, modified, dropped⟩, rfl, hadded, hmodified, hdropped⟩ :=
    exists_specs_of_alter (changes_of_alteration h).2.1 made
  refine ⟨⟨added, modified, dropped⟩, ?_, rfl⟩
  constructor
  case mem_added_iff =>
    intro spec
    rw [mem_iff_of_mapM_eq_ok hadded]
    simp only [mem_newColumns_iff h, and_assoc]
  case mem_modified_iff =>
    intro declared previous
    rw [mem_iff_of_mapM_eq_ok hmodified]
    simp only [Prod.exists, mem_modifiedColumns_iff h, modification_eq_ok_iff]
    constructor
    · rintro ⟨c, type, nullable, ⟨hc, hv⟩, made⟩
      exact ⟨c, hc, type, nullable, hv, made⟩
    · rintro ⟨c, hc, type, nullable, hv, made⟩
      exact ⟨c, type, nullable, ⟨hc, hv⟩, made⟩
  case mem_dropped_iff =>
    intro declared previous
    rw [mem_iff_of_mapM_eq_ok hdropped]
    simp only [Prod.exists, mem_droppedColumns_iff h, replacement_eq_ok_iff]
    constructor
    · rintro ⟨_, type, nullable, ⟨c, hc, rfl, hv⟩, made⟩
      exact ⟨c, hc, type, nullable, hv, made⟩
    · rintro ⟨c, hc, type, nullable, hv, made⟩
      exact ⟨c.withoutDrop, type, nullable, ⟨c, hc, rfl, hv⟩, made⟩
  case exists_added =>
    intro c hc hv
    exact exists_of_mapM_eq_ok hadded ((mem_newColumns_iff h).2 ⟨hc, hv⟩)
  case exists_modified =>
    intro c hc type nullable hv
    obtain ⟨pair, hp, made⟩ := exists_of_mapM_eq_ok hmodified ((mem_modifiedColumns_iff h).2 ⟨hc, hv⟩)
    exact ⟨pair, hp, (modification_eq_ok_iff.1 made).1⟩
  case exists_dropped =>
    intro c hc type nullable hv
    obtain ⟨pair, hp, made⟩ :=
      exists_of_mapM_eq_ok hdropped ((mem_droppedColumns_iff h).2 ⟨c, hc, rfl, hv⟩)
    exact ⟨pair, hp, (replacement_eq_ok_iff.1 made).1⟩
  case added_sublist =>
    rw [map_eq_map_of_mapM_eq_ok hadded (fun c => c.name) (fun spec => spec.name)
      fun c spec hs => (ColumnSpec.of_ofDecl hs).1]
    exact bucket_sublist h .addColumns
  case modified_sublist =>
    show (modified.map fun p => p.1.name).Sublist decl.columnNames
    rw [map_eq_map_of_mapM_eq_ok hmodified (fun m => m.1.name) (fun p => p.1.name)
      fun m p hp => (ColumnSpec.of_ofDecl (modification_eq_ok_iff.1 hp).1).1]
    have ordered := bucket_sublist h .modifyColumns
    rw [bucket, columnsOf, List.map_map] at ordered
    exact ordered
  case dropped_sublist =>
    show (dropped.map fun p => p.1.name).Sublist decl.columnNames
    rw [map_eq_map_of_mapM_eq_ok hdropped (fun d => d.1.name) (fun p => p.1.name)
      fun d p hp => (ColumnSpec.of_ofDecl (replacement_eq_ok_iff.1 hp).1).1]
    have ordered := bucket_sublist h .dropColumns
    rw [bucket, columnsOf, List.map_map] at ordered
    exact ordered

/-! ## The artifact that creates a table -/

/-- The declared columns of a table that is created, apart from a primary key
that says no more than the one every table gets. -/
def explicitColumns (decl : TableDecl) : List ColumnDecl :=
  (decl.columns.filter isKept).filter fun c => !isImpliedKey c

/-- Whether a table that is created gets a primary key of its own making. -/
def hasImplicitKey (decl : TableDecl) : Bool :=
  !(explicitColumns decl).any fun c => c.name == "id"

@[simp] theorem newColumns_creation (decl : TableDecl) :
    (creation decl).newColumns = explicitColumns decl := by
  show ((explicitColumns decl).map fun c => (⟨c.name, .new c⟩ : ColumnChange)).filterMap _ = _
  rw [List.filterMap_map]
  exact List.filterMap_some

/-- The body of the artifact that creates a table. -/
def creationOf (decl : TableDecl) (specs : List ColumnSpec) : ArtifactBody where
  kind := .create
  forward :=
    (if hasImplicitKey decl then [.id] else []) ++ specs.map .addColumn ++
    decl.indexes.map .createIndex ++
    (if decl.flags.softDeletes then [.softDeletes] else []) ++
    (if decl.flags.timestamps then [.timestamps] else [])
  inverse := [.dropTable]

/-- What is selected from the operations that create a table comes from its columns and its
indexes, unless it is the primary key or a flag. -/
theorem filterMap_creationOf {α : Type} {select : Operation → Option α} (key : select .id = none)
    (softDeletes : select .softDeletes = none) (timestamps : select .timestamps = none)
    (decl : TableDecl) (specs : List ColumnSpec) :
    (creationOf decl specs).forward.filterMap select =
      (specs.filterMap fun spec => select (.addColumn spec)) ++
        decl.indexes.filterMap fun index => select (.createIndex index) := by
  have without (p : Bool) {operation : Operation} (h : select operation = none) :
      (if p then [operation] else []).filterMap select = [] := by
    cases p
    · rfl
    · exact List.filterMap_cons_none h
  simp only [creationOf, List.filterMap_append, List.filterMap_map, without _ key,
    without _ softDeletes, without _ timestamps, List.nil_append, List.append_nil]
  rfl

/-- **A table that does not exist is created by one artifact**, from the
specifications of its explicit columns. -/
theorem exists_specs_of_creation {now : Instant} {artifacts : List Artifact}
    (h : (creation decl).artifacts decl now = .ok artifacts) :
    ∃ specs artifact, (explicitColumns decl).mapM ColumnSpec.ofDecl = .ok specs ∧
      artifacts = [artifact] ∧ artifact.table = decl.name ∧
      artifact.body = creationOf decl specs := by
  obtain ⟨made, tables⟩ := of_artifacts h
  obtain ⟨body, created, one⟩ := bind_eq_ok_iff.1 made
  obtain ⟨specs, described, rest⟩ := bind_eq_ok_iff.1 created
  cases rest
  rw [newColumns_creation] at described
  have single : [creationOf decl specs] = artifacts.map Artifact.body := Except.ok.inj one
  obtain ⟨artifact, rfl⟩ := List.length_eq_one_iff.1
    ((List.length_map Artifact.body).symm.trans (congrArg List.length single.symm))
  exact ⟨specs, artifact, described, rfl, tables artifact List.mem_cons_self,
    (List.cons.inj single).1.symm⟩

/-- It is made at the time of the run. -/
theorem createdAt_of_creation {now : Instant} {artifacts : List Artifact}
    (h : (creation decl).artifacts decl now = .ok artifacts) :
    ∀ artifact ∈ artifacts, artifact.createdAt = now := by
  obtain ⟨bodies, made, h⟩ := bind_eq_ok_iff.1 h
  obtain ⟨body, -, one⟩ := bind_eq_ok_iff.1 made
  cases one
  rw [dated, Instant.later?, if_pos rfl] at h
  cases h
  intro artifact ha
  rw [List.mem_singleton.1 ha]

end TableDiff

end SchemaPlan
