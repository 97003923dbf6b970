import Mathlib.Data.List.Nodup
import SchemaPlan.Declaration.Reading

/-!
# What holds of every declaration that is read

A declaration is read entry by entry, and a column that is declared again
takes the place of the one before. So the columns of a table have different
names, however often the text names them
(`TableDecl.nodup_columnNames_of_parse`).
-/

namespace SchemaPlan

@[simp] theorem Fault.collect?_eq_none_iff {faults : List Fault} :
    collect? faults = none ↔ faults = [] := by
  unfold collect?
  split
  · simp
  · simp
  · rename_i nonempty _
    exact iff_of_false nofun nonempty

namespace TableDecl

variable {text : String} {decl : TableDecl}

theorem map_name_putColumn (column : ColumnDecl) (columns : List ColumnDecl) :
    (putColumn column columns).map (fun c => c.name) =
      if column.name ∈ columns.map (fun c => c.name) then columns.map fun c => c.name
      else columns.map (fun c => c.name) ++ [column.name] := by
  induction columns with
  | nil => rfl
  | cons first rest ih =>
    rw [putColumn]
    by_cases same : first.name = column.name
    · rw [if_pos same, if_pos (by simp [same])]
      simp [same]
    · rw [if_neg same, List.map_cons, ih]
      have different : ¬ column.name = first.name := fun h => same h.symm
      by_cases later : column.name ∈ rest.map fun c => c.name
      · rw [if_pos later, List.map_cons, if_pos (List.mem_cons_of_mem first.name later)]
      · rw [if_neg later, List.map_cons, if_neg (by simp [different, later])]
        rfl

/-- An entry keeps the names of the columns distinct, for a column of a name
that is there takes its place. -/
theorem nodup_columnNames_add {table : TableDecl} (h : table.columnNames.Nodup) (entry : Entry) :
    (table.add entry).columnNames.Nodup := by
  cases entry with
  | softDeletes => exact h
  | timestamps => exact h
  | column decl =>
    show ((putColumn decl table.columns).map fun c => c.name).Nodup
    rw [map_name_putColumn]
    split
    · exact h
    · rename_i fresh
      exact List.nodup_append_comm.1 (List.nodup_cons.2 ⟨fresh, h⟩)

theorem nodup_columnNames_foldl_add {table : TableDecl} (h : table.columnNames.Nodup)
    (entries : List Entry) : (entries.foldl add table).columnNames.Nodup := by
  induction entries generalizing table with
  | nil => exact h
  | cons entry rest ih => exact ih (nodup_columnNames_add h entry)

/-- A declaration that is read is the entries of its tokens, in order, and
its indexes. -/
theorem exists_entries_of_parse (h : parse text = .ok decl) :
    ∃ (name : String) (entries : List Entry) (indexes : List CompositeIndex),
      decl = { entries.foldl add (empty name) with indexes := indexes } := by
  unfold parse at h
  split at h
  · cases h
  · unfold readBody at h
    dsimp only at h
    split at h
    · cases h
    · split at h
      · cases h
      · cases h
        exact ⟨_, _, _, rfl⟩

/-- **The columns of a declared table have different names**, however often a
name occurs in the text. -/
theorem nodup_columnNames_of_parse (h : parse text = .ok decl) : decl.columnNames.Nodup := by
  obtain ⟨name, entries, indexes, rfl⟩ := exists_entries_of_parse h
  exact @nodup_columnNames_foldl_add (empty name) List.nodup_nil entries

/-! ## The name of the table -/

@[simp] theorem name_foldl_add (table : TableDecl) (entries : List Entry) :
    (entries.foldl add table).name = table.name := by
  induction entries generalizing table with
  | nil => rfl
  | cons entry rest ih =>
    rw [List.foldl_cons, ih]
    cases entry <;> rfl

/-- **A declared table has an identifier for its name**, so the name is safe in
a file name and in generated code. -/
theorem isIdentifier_of_parse (h : parse text = .ok decl) : isIdentifier decl.name = true := by
  unfold parse at h
  split at h
  · cases h
  · unfold readBody at h
    dsimp only at h
    split at h
    · cases h
    · rename_i first later _
      split at h
      · cases h
      · rename_i flawless
        cases h
        rw [Fault.collect?_eq_none_iff, List.append_eq_nil_iff, Option.toList_eq_nil_iff] at flawless
        show isIdentifier ((_ : List Entry).foldl add (empty (cutTableName first).1)).name = true
        rw [name_foldl_add]
        have named := flawless.1
        unfold nameFault? at named
        split at named
        · cases named
        · split at named
          · cases named
          · rename_i good
            simpa [empty] using good

end TableDecl

end SchemaPlan
