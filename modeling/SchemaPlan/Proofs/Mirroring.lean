import SchemaPlan.Proofs.AlterationReplay

/-!
# The artifacts of a comparison mirror it

A comparison sorts the columns of a table that exists: some are new, some modified, some
dropped, and with the others nothing happens. There is an artifact for each of the three
sorts that has a column in it, and the operations of an artifact, those that make the change
and those that take it back, are about these columns one by one, in declared order
(`emission_mirrors_the_diff`).

Where columns are removed this takes more than a list of names to say, for the foreign key of
a column has to go before the column does. `Operation.IsRemoval` says it of the neighbours
of each operation.
-/

namespace SchemaPlan

/-! ## Operations on columns one by one -/

namespace Operation

/-- The column that an operation adds, changes or removes, or whose key it removes. -/
def column? : Operation → Option String
  | addColumn spec => some spec.name
  | changeColumn spec => some spec.name
  | dropColumn column => some column
  | dropForeign column => some column
  | _ => none

/-- The column that an operation removes. -/
def dropped? : Operation → Option String
  | dropColumn column => some column
  | _ => none

/-- **Operations take one step for each of the named columns**, in order. -/
def IsSeries (step : ColumnSpec → Operation) (names : List String)
    (operations : List Operation) : Prop :=
  ∃ specs : List ColumnSpec, operations = specs.map step ∧
    specs.map (fun spec => spec.name) = names

/-- **Operations remove the named columns**, in order. The key of a column goes right before
the column if it has one, and no other key does. -/
structure IsRemoval (isKey : String → Prop) (names : List String)
    (operations : List Operation) : Prop where
  /-- The columns are removed in order. -/
  dropped : operations.filterMap dropped? = names
  /-- Nothing else happens, but to their keys. -/
  only : ∀ operation ∈ operations,
    ∃ n ∈ names, operation = .dropColumn n ∨ operation = .dropForeign n
  /-- The key of a column goes before the column. -/
  preceded : ∀ before n after, operations = before ++ .dropColumn n :: after → isKey n →
    before.getLast? = some (.dropForeign n)
  /-- After a key goes the column that has it. -/
  followed : ∀ before n after, operations = before ++ .dropForeign n :: after →
    isKey n ∧ after.head? = some (.dropColumn n)

theorem IsSeries.column? {step : ColumnSpec → Operation} {names : List String}
    {operations : List Operation} (h : IsSeries step names operations)
    (named : ∀ spec, (step spec).column? = some spec.name) :
    ∀ operation ∈ operations, ∃ n ∈ names, operation.column? = some n := by
  obtain ⟨specs, rfl, rfl⟩ := h
  refine List.forall_mem_map.2 fun spec hs => ⟨spec.name, List.mem_map_of_mem hs, named spec⟩

theorem IsSeries.eq_nil_iff {step : ColumnSpec → Operation} {names : List String}
    {operations : List Operation} (h : IsSeries step names operations) :
    operations = [] ↔ names = [] := by
  obtain ⟨specs, rfl, rfl⟩ := h
  rw [List.map_eq_nil_iff, List.map_eq_nil_iff]

namespace IsRemoval

variable {isKey : String → Prop} {names : List String} {operations : List Operation}

theorem column? (h : IsRemoval isKey names operations) :
    ∀ operation ∈ operations, ∃ n ∈ names, operation.column? = some n := by
  intro operation ho
  obtain ⟨n, hn, rfl | rfl⟩ := h.only operation ho
  · exact ⟨n, hn, rfl⟩
  · exact ⟨n, hn, rfl⟩

theorem eq_nil_iff (h : IsRemoval isKey names operations) : operations = [] ↔ names = [] := by
  constructor
  · rintro rfl
    exact h.dropped.symm
  · rintro rfl
    refine List.eq_nil_iff_forall_not_mem.2 fun operation ho => ?_
    obtain ⟨n, hn, -⟩ := h.only operation ho
    exact List.not_mem_nil hn

theorem nil : IsRemoval isKey [] [] where
  dropped := rfl
  only := List.forall_mem_nil _
  preceded _ _ _ split := absurd (congrArg List.length split) (by simp)
  followed _ _ _ split := absurd (congrArg List.length split) (by simp)

/-- A column without a key is removed first. -/
theorem cons_column (h : IsRemoval isKey names operations) {n : String} (plain : ¬ isKey n) :
    IsRemoval isKey (n :: names) (.dropColumn n :: operations) where
  dropped := congrArg (n :: ·) h.dropped
  only := by
    refine List.forall_mem_cons.2 ⟨⟨n, List.mem_cons_self, .inl rfl⟩, fun operation ho => ?_⟩
    obtain ⟨m, hm, same⟩ := h.only operation ho
    exact ⟨m, List.mem_cons_of_mem n hm, same⟩
  preceded before m after split key := by
    cases before with
    | nil =>
      cases split
      exact absurd key plain
    | cons first before =>
      rw [List.cons_append, List.cons.injEq] at split
      have last := h.preceded before m after split.2 key
      rw [List.getLast?_cons, last]
      rfl
  followed before m after split := by
    cases before with
    | nil => cases split
    | cons first before =>
      rw [List.cons_append, List.cons.injEq] at split
      exact h.followed before m after split.2

/-- A column with a key is removed first, after its key. -/
theorem cons_key (h : IsRemoval isKey names operations) {n : String} (key : isKey n) :
    IsRemoval isKey (n :: names) (.dropForeign n :: .dropColumn n :: operations) where
  dropped := congrArg (n :: ·) h.dropped
  only := by
    refine List.forall_mem_cons.2 ⟨⟨n, List.mem_cons_self, .inr rfl⟩,
      List.forall_mem_cons.2 ⟨⟨n, List.mem_cons_self, .inl rfl⟩, fun operation ho => ?_⟩⟩
    obtain ⟨m, hm, same⟩ := h.only operation ho
    exact ⟨m, List.mem_cons_of_mem n hm, same⟩
  preceded before m after split key' := by
    match before with
    | [] => cases split
    | [first] =>
      cases split
      rfl
    | first :: second :: before =>
      simp only [List.cons_append, List.cons.injEq] at split
      have last := h.preceded before m after split.2.2 key'
      rw [List.getLast?_cons, List.getLast?_cons, last]
      rfl
  followed before m after split := by
    match before with
    | [] =>
      cases split
      exact ⟨key, rfl⟩
    | [first] => cases split
    | first :: second :: before =>
      simp only [List.cons_append, List.cons.injEq] at split
      exact h.followed before m after split.2.2

/-- Specifications are removed one after the other. -/
theorem of_specs {specs : List ColumnSpec}
    (keys : ∀ spec ∈ specs, (spec.foreign.isSome = true ↔ isKey spec.name)) :
    IsRemoval isKey (specs.map fun spec => spec.name) (specs.flatMap ColumnSpec.removal) := by
  induction specs with
  | nil => exact nil
  | cons spec rest ih =>
    rw [List.forall_mem_cons] at keys
    rw [List.map_cons, List.flatMap_cons, ColumnSpec.removal]
    split
    · exact (ih keys.2).cons_key (keys.1.1 ‹_›)
    · exact (ih keys.2).cons_column (mt keys.1.2 ‹_›)

end IsRemoval

end Operation

/-! ## The artifacts of a comparison -/

namespace TableDiff

variable {decl : TableDecl} {diff : TableDiff} {now : Instant} {artifacts : List Artifact}

/-- A column of this name and kind of artifact refers to another table. -/
def IsKey (diff : TableDiff) (kind : ArtifactKind) (n : String) : Prop :=
  ∃ c ∈ diff.columnsOf kind, c.name = n ∧ c.Refers

/-- **An artifact mirrors what the comparison has for its kind.** Columns are added in order
and removed in order, or changed to what is declared and back to what they were. -/
def Mirrors (diff : TableDiff) (body : ArtifactBody) : Prop :=
  let names := diff.bucket body.kind
  let isKey := diff.IsKey body.kind
  match body.kind with
  | .create => False
  | .addColumns =>
    Operation.IsSeries .addColumn names body.forward ∧
      Operation.IsRemoval isKey names body.inverse
  | .modifyColumns =>
    Operation.IsSeries .changeColumn names body.forward ∧
      Operation.IsSeries .changeColumn names body.inverse
  | .dropColumns =>
    Operation.IsRemoval isKey names body.forward ∧
      Operation.IsSeries .addColumn names body.inverse

/-- No operation of an artifact is about a column of another one. -/
theorem Mirrors.column? {body : ArtifactBody} (h : diff.Mirrors body) :
    ∀ operation ∈ body.forward ++ body.inverse,
      ∃ n ∈ diff.bucket body.kind, operation.column? = some n := by
  obtain ⟨kind, forward, inverse⟩ := body
  refine List.forall_mem_append.2 ?_
  cases kind with
  | create => exact h.elim
  | addColumns => exact ⟨h.1.column? fun _ => rfl, h.2.column?⟩
  | modifyColumns => exact ⟨h.1.column? fun _ => rfl, h.2.column? fun _ => rfl⟩
  | dropColumns => exact ⟨h.1.column?, h.2.column? fun _ => rfl⟩

/-- Nothing is done just where there are no columns to do it to. -/
theorem Mirrors.eq_nil_iff {body : ArtifactBody} (h : diff.Mirrors body) :
    body.forward = [] ↔ diff.bucket body.kind = [] := by
  obtain ⟨kind, forward, inverse⟩ := body
  cases kind with
  | create => exact h.elim
  | addColumns => exact h.1.eq_nil_iff
  | modifyColumns => exact h.1.eq_nil_iff
  | dropColumns => exact h.1.eq_nil_iff

/-- Bodies mirror a comparison: they are of these kinds as far as there are columns, and what
each of them does is about the columns of its kind. -/
def MirroredBy (diff : TableDiff) (kinds : List ArtifactKind) (bodies : List ArtifactBody) : Prop :=
  bodies.map ArtifactBody.kind = kinds.filter (fun kind => diff.bucket kind ≠ []) ∧
    ∀ body ∈ bodies, diff.Mirrors body

theorem MirroredBy.append {kinds others : List ArtifactKind} {bodies more : List ArtifactBody}
    (first : diff.MirroredBy kinds bodies) (second : diff.MirroredBy others more) :
    diff.MirroredBy (kinds ++ others) (bodies ++ more) := by
  constructor
  · rw [List.map_append, List.filter_append, first.1, second.1]
  · exact List.forall_mem_append.2 ⟨first.2, second.2⟩

theorem mirroredBy_bodyOf {kind : ArtifactKind} {forward inverse : List Operation}
    (h : diff.Mirrors ⟨kind, forward, inverse⟩) :
    diff.MirroredBy [kind] (bodyOf kind forward inverse) := by
  have empty : forward = [] ↔ diff.bucket kind = [] := h.eq_nil_iff
  unfold bodyOf
  split
  · rename_i none
    rw [List.isEmpty_iff, empty] at none
    exact ⟨by simp [none], List.forall_mem_nil _⟩
  · rename_i some
    rw [List.isEmpty_iff, empty] at some
    exact ⟨by simp [some], List.forall_mem_singleton.2 h⟩

/-- The specification of a column has a foreign key if the column refers to another table. -/
theorem isSome_foreign_iff {kind : ArtifactKind} (distinct : (diff.bucket kind).Nodup)
    {c : ColumnDecl} (hc : c ∈ diff.columnsOf kind) {spec : ColumnSpec}
    (made : ColumnSpec.ofDecl c = .ok spec) :
    spec.foreign.isSome = true ↔ diff.IsKey kind spec.name := by
  obtain ⟨name, -, -, foreign⟩ := ColumnSpec.of_ofDecl made
  rw [foreign, name, ColumnDecl.isForeignKey_iff]
  constructor
  · exact fun refers => ⟨c, hc, rfl, refers⟩
  · rintro ⟨d, hd, same, refers⟩
    exact List.inj_on_of_nodup_map distinct hd hc same ▸ refers

variable {bodies : List ArtifactBody}

theorem mirroredBy_additionBody (distinct : (diff.bucket .addColumns).Nodup)
    (made : diff.additionBody = .ok bodies) : diff.MirroredBy [.addColumns] bodies := by
  obtain ⟨added, described, rfl⟩ := additionBody_eq_ok made
  have names : added.map (fun spec => spec.name) = diff.bucket .addColumns :=
    map_eq_map_of_mapM_eq_ok described _ _ fun c spec h => (ColumnSpec.of_ofDecl h).1
  refine mirroredBy_bodyOf ⟨⟨added, rfl, names⟩, ?_⟩
  dsimp only
  rw [← names]
  refine Operation.IsRemoval.of_specs fun spec hs => ?_
  obtain ⟨c, hc, h⟩ := (mem_iff_of_mapM_eq_ok described).1 hs
  exact isSome_foreign_iff distinct hc h

/-- Either side of a pair of specifications has the name of its column. -/
theorem names_of_pairs {α : Type} {f : α → Except Fault (ColumnSpec × ColumnSpec)} {l : List α}
    {pairs : List (ColumnSpec × ColumnSpec)} (described : l.mapM f = .ok pairs)
    {side : ColumnSpec × ColumnSpec → ColumnSpec} {column : α → ColumnDecl}
    (keeps : ∀ a p, f a = .ok p → (side p).name = (column a).name) :
    (pairs.map side).map (fun spec => spec.name) = (l.map column).map fun c => c.name := by
  rw [List.map_map, List.map_map]
  exact map_eq_map_of_mapM_eq_ok described _ _ keeps

theorem mirroredBy_modificationBody (made : diff.modificationBody = .ok bodies) :
    diff.MirroredBy [.modifyColumns] bodies := by
  obtain ⟨modified, described, rfl⟩ := modificationBody_eq_ok made
  refine mirroredBy_bodyOf ⟨⟨modified.map Prod.fst, List.map_map.symm, ?_⟩,
    ⟨modified.map Prod.snd, List.map_map.symm, ?_⟩⟩
  · exact names_of_pairs described fun m p h =>
      (ColumnSpec.of_ofDecl (modification_eq_ok_iff.1 h).1).1
  · exact names_of_pairs described fun m p h =>
      (ColumnSpec.of_restore (modification_eq_ok_iff.1 h).2).1

theorem mirroredBy_removalBody (distinct : (diff.bucket .dropColumns).Nodup)
    (made : diff.removalBody = .ok bodies) : diff.MirroredBy [.dropColumns] bodies := by
  obtain ⟨dropped, described, rfl⟩ := removalBody_eq_ok made
  have declared : (dropped.map Prod.fst).map (fun spec => spec.name) = diff.bucket .dropColumns :=
    names_of_pairs described fun d p h => (ColumnSpec.of_ofDecl (replacement_eq_ok_iff.1 h).1).1
  have previous : (dropped.map Prod.snd).map (fun spec => spec.name) = diff.bucket .dropColumns :=
    names_of_pairs described fun d p h => by
      obtain ⟨made, restored⟩ := replacement_eq_ok_iff.1 h
      exact (ColumnSpec.of_restoreDropped restored).1.trans (ColumnSpec.of_ofDecl made).1
  refine mirroredBy_bodyOf ⟨?_, dropped.map Prod.snd, List.map_map.symm, previous⟩
  dsimp only
  rw [← declared, ← List.flatMap_map]
  refine Operation.IsRemoval.of_specs (List.forall_mem_map.2 fun p hp => ?_)
  obtain ⟨d, hd, h⟩ := (mem_iff_of_mapM_eq_ok described).1 hp
  exact isSome_foreign_iff distinct (List.mem_map_of_mem hd) (replacement_eq_ok_iff.1 h).1

/-- The bodies of an alteration mirror the comparison. -/
theorem mirroredBy_bodies (alters : diff.tableAction = .alter)
    (distinct : ∀ kind, (diff.bucket kind).Nodup) (made : diff.bodies decl = .ok bodies) :
    diff.MirroredBy [.addColumns, .modifyColumns, .dropColumns] bodies := by
  rw [TableDiff.bodies, alters] at made
  obtain ⟨added, add, made⟩ := bind_eq_ok_iff.1 made
  obtain ⟨modified, modify, made⟩ := bind_eq_ok_iff.1 made
  obtain ⟨removed, drop, made⟩ := bind_eq_ok_iff.1 made
  cases made
  have first := mirroredBy_additionBody (distinct .addColumns) add
  have second := mirroredBy_modificationBody modify
  exact (first.append second).append (mirroredBy_removalBody (distinct .dropColumns) drop)

end TableDiff

/-- **The artifacts of a comparison mirror it.** For a table that exists there is one artifact
for each sort of columns that has any, in a fixed order. So nothing is made just when the
comparison says that nothing is to be done, and it makes no difference whether that is looked
at before. The columns of each sort come in declared order, and no column is of two sorts; the
operations of an artifact go through the columns of its sort, and through no others. -/
theorem emission_mirrors_the_diff {options : DiffOptions} {inspector : Inspector}
    {decl : TableDecl} {diff : TableDiff} (distinct : decl.columnNames.Nodup)
    (compared : TableDiff.compare options inspector decl true = .ok diff) {now : Instant}
    {artifacts : List Artifact} (made : diff.artifacts decl now = .ok artifacts) :
    artifacts.map Artifact.kind = [.addColumns, .modifyColumns, .dropColumns].filter
      (fun kind => diff.bucket kind ≠ []) ∧
    (artifacts = [] ↔ diff.isUpToDate = true) ∧
    Plan.artifacts ⟨decl, true, diff⟩ now = .ok artifacts ∧
    (∀ kind, (diff.bucket kind).Sublist decl.columnNames) ∧
    (diff.bucket .addColumns ++ diff.bucket .modifyColumns ++ diff.bucket .dropColumns).Nodup ∧
    ∀ artifact ∈ artifacts, diff.Mirrors artifact.body ∧
      ∀ operation ∈ artifact.forward ++ artifact.inverse,
        ∃ n ∈ diff.bucket artifact.kind, operation.column? = some n := by
  have alters := TableDiff.tableAction_of_alteration compared
  have buckets := TableDiff.bucket_sublist compared
  obtain ⟨bodies, -⟩ := TableDiff.of_artifacts made
  obtain ⟨kinds, mirrors⟩ :=
    TableDiff.mirroredBy_bodies alters (fun kind => distinct.sublist (buckets kind)) bodies
  rw [List.map_map] at kinds
  have kinds : artifacts.map Artifact.kind = _ := kinds
  have nothing : artifacts = [] ↔ diff.isUpToDate = true := by
    rw [TableDiff.isUpToDate_iff alters, ← List.map_eq_nil_iff (f := Artifact.kind), kinds,
      List.filter_eq_nil_iff]
    simp only [decide_eq_true_eq, ne_eq, Decidable.not_not]
  refine ⟨kinds, nothing, ?_, buckets, ?_, fun artifact ha => ?_⟩
  · unfold Plan.artifacts
    split
    · rename_i done
      rw [nothing.2 done]
    · exact made
  · exact TableDiff.nodup_buckets compared distinct
  · have mirrored := mirrors artifact.body (List.mem_map_of_mem ha)
    exact ⟨mirrored, mirrored.column?⟩

/-- Of the orders a total is added and the author dropped, whose foreign key goes before it. -/
theorem emission_mirrors_the_diff_orders : ∃ artifacts,
    WrittenOrders.diff.artifacts WrittenOrders.decl LongerNotes.start = .ok artifacts ∧
    artifacts.map Artifact.kind = [.addColumns, .dropColumns] ∧
    ∀ artifact ∈ artifacts, artifact.kind = .dropColumns → ∀ before after,
      artifact.forward = before ++ .dropColumn "author_id" :: after →
        before.getLast? = some (.dropForeign "author_id") := by
  obtain ⟨artifacts, made⟩ := WrittenOrders.exists_artifacts
  obtain ⟨kinds, -, -, -, -, mirrored⟩ :=
    emission_mirrors_the_diff (by decide) (WrittenOrders.compared true) made
  refine ⟨artifacts, made, kinds.trans (by decide), fun artifact ha drops before after split => ?_⟩
  have mirrors := (mirrored artifact ha).1
  have kind : artifact.body.kind = .dropColumns := drops
  rw [TableDiff.Mirrors, kind] at mirrors
  refine mirrors.1.preceded before "author_id" after split ?_
  exact ⟨WrittenOrders.author, by decide, rfl, .inl rfl⟩

end SchemaPlan
