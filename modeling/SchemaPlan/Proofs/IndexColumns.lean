import SchemaPlan.Proofs.Grammar
import SchemaPlan.Proofs.Mirroring
import SchemaPlan.Proofs.Planning
import SchemaPlan.Proofs.UnitReading

/-!
# The columns of declared indexes

A token that declares an index is told by its characters: behind the keyword and the colon
there is nothing but letters, digits, underscores and bars. What stands between two bars is
taken for a column if it is there at all, and the reader does not ask whether it is an
identifier, as it does for every column that is declared.

So of an index it is known that its columns are words. They are identifiers unless one of
them begins with a digit (`isIdentifier_iff_of_isWord`), and there are some unless there are
only bars (`TableDecl.columnsBetween_eq_nil_iff`). Nothing else can be wrong with an index
(`columns_of_declared_indexes`), and nothing is lost or mended on the way to the artifact
that creates the table, the only one that makes indexes.
-/

namespace SchemaPlan

/-! ## Words and identifiers -/

/-- **A word is an identifier if it does not begin with a digit.** -/
theorem isIdentifier_iff_of_isWord {name : String} (word : IsWord name) (nonempty : name ≠ "") :
    isIdentifier name = true ↔ ∀ c ∈ name.toList.head?, c.isDigit = false := by
  unfold isIdentifier
  unfold IsWord Text.Consists at word
  cases chars : name.toList with
  | nil => exact absurd (String.toList_injective chars) nonempty
  | cons c rest =>
    rw [chars, List.forall_mem_cons] at word
    have later : rest.all isIdentifierRest = true := List.all_eq_true.2 word.2
    have first : isIdentifierStart c = true ↔ c.isDigit = false := by
      have here := word.1
      rw [isIdentifierRest, Char.isAlphanum] at here
      rw [isIdentifierStart]
      cases digit : c.isDigit with
      | true =>
        have letter : c.isAlpha = false := by
          by_contra alpha
          rw [isDigit_eq_false_of_isAlpha (Bool.not_eq_false _ ▸ alpha)] at digit
          cases digit
        have under : c ≠ '_' := by
          rintro rfl
          cases digit
        simp [letter, under]
      | false =>
        rw [digit, Bool.or_false] at here
        exact iff_of_true here rfl
    rw [isIdentifierChars, later, Bool.and_true, first]
    simp

namespace CompositeIndex

/-- **An index can be made**: it has columns, and each of them has an identifier for its
name. -/
structure IsSound (index : CompositeIndex) : Prop where
  /-- There is a column. -/
  nonempty : index.columns ≠ []
  /-- The columns are identifiers. -/
  named : ∀ n ∈ index.columns, isIdentifier n = true

end CompositeIndex

/-! ## Index tokens -/

namespace TableDecl

variable {text token columns : String} {index : CompositeIndex} {decl : TableDecl}

/-- The columns that stand between bars. -/
def columnsBetween (columns : String) : List String :=
  (Text.pieces '|' columns).filter fun name => !name.isEmpty

/-- **There are columns unless there are only bars.** -/
theorem columnsBetween_eq_nil_iff : columnsBetween columns = [] ↔ ∀ c ∈ columns.toList, c = '|' := by
  have inside : (Text.pieces '|' columns).flatMap String.toList = [] ↔
      ∀ c ∈ columns.toList, c = '|' := by
    rw [Text.flatten_pieces, List.filter_eq_nil_iff]
    simp
  rw [← inside, columnsBetween, List.filter_eq_nil_iff, List.flatMap_eq_nil_iff]
  simp [← String.toList_eq_nil_iff]

/-- The columns of an index are words. -/
theorem isWord_of_mem_columnsBetween
    (chars : ∀ c ∈ columns.toList, c.isAlphanum = true ∨ c = '_' ∨ c = '|') {n : String}
    (hn : n ∈ columnsBetween columns) : IsWord n ∧ n ≠ "" := by
  obtain ⟨piece, filled⟩ := List.mem_filter.1 hn
  refine ⟨fun c hc => ?_, by simpa using filled⟩
  obtain ⟨inside, bar⟩ := Text.of_mem_pieces piece hc
  rcases chars c inside with plain | rfl | rfl
  · rw [isIdentifierRest, plain, Bool.true_or]
  · rfl
  · exact absurd rfl bar

/-- What can be said of an index that a token declares: its columns are words, and the index
can be made if they are not only bars and none of them begins with a digit. -/
theorem exists_columns_of_declaresIndex (h : DeclaresIndex token index) :
    ∃ columns, token = index.kind.keyword ++ ":" ++ columns ∧
      index.columns = columnsBetween columns ∧ (∀ n ∈ index.columns, IsWord n ∧ n ≠ "") ∧
      (index.IsSound ↔ (∃ c ∈ columns.toList, c ≠ '|') ∧
        ∀ n ∈ index.columns, ∀ c ∈ n.toList.head?, c.isDigit = false) := by
  obtain ⟨kind, nonempty, chars⟩ := h
  rename_i columns
  have words : ∀ n ∈ columnsBetween columns, IsWord n ∧ n ≠ "" :=
    fun n hn => isWord_of_mem_columnsBetween chars hn
  have some : columnsBetween columns ≠ [] ↔ ∃ c ∈ columns.toList, c ≠ '|' := by
    rw [Ne, columnsBetween_eq_nil_iff]
    simp
  have named : (∀ n ∈ columnsBetween columns, isIdentifier n = true) ↔
      ∀ n ∈ columnsBetween columns, ∀ c ∈ n.toList.head?, c.isDigit = false :=
    forall₂_congr fun n hn => isIdentifier_iff_of_isWord (words n hn).1 (words n hn).2
  refine ⟨columns, rfl, rfl, words, ?_⟩
  rw [← some]
  exact ⟨fun h => ⟨h.nonempty, named.1 h.named⟩, fun h => ⟨h.1, named.2 h.2⟩⟩

end TableDecl

/-! ## Indexes among operations -/

/-- The index that an operation makes. -/
def Operation.index? : Operation → Option CompositeIndex
  | createIndex index => some index
  | _ => none

/-- No operation is about an index and about one column. -/
theorem Operation.index?_of_column? {operation : Operation} {n : String}
    (h : operation.column? = some n) : operation.index? = none := by
  cases operation <;> first | rfl | cases h

namespace TableDiff

variable {options : DiffOptions} {inspector : Inspector} {tableExists : Bool} {decl : TableDecl}
  {diff : TableDiff} {now : Instant} {artifacts : List Artifact}

/-- **Indexes are made with their table**, all of them and in declared order. -/
theorem indexes_of_artifacts (distinct : decl.columnNames.Nodup)
    (compared : compare options inspector decl tableExists = .ok diff)
    (made : diff.artifacts decl now = .ok artifacts) {artifact : Artifact}
    (mem : artifact ∈ artifacts) :
    (artifact.forward ++ artifact.inverse).filterMap Operation.index? =
      if artifact.kind = .create then decl.indexes else [] := by
  cases tableExists with
  | false =>
    cases compared
    obtain ⟨specs, only, -, rfl, -, body⟩ := exists_specs_of_creation made
    cases List.mem_singleton.1 mem
    have kind : artifact.kind = .create := congrArg ArtifactBody.kind body
    have forward : artifact.forward = (creationOf decl specs).forward :=
      congrArg ArtifactBody.forward body
    have inverse : artifact.inverse = [.dropTable] := congrArg ArtifactBody.inverse body
    rw [if_pos kind, forward, inverse, List.filterMap_append, filterMap_creationOf rfl rfl rfl]
    show (specs.filterMap fun _ => none) ++ decl.indexes.filterMap some ++ [] = decl.indexes
    rw [List.filterMap_eq_nil_iff.2 fun _ _ => rfl, List.filterMap_some, List.nil_append,
      List.append_nil]
  | true =>
    have alters := tableAction_of_alteration compared
    obtain ⟨bodies, -⟩ := of_artifacts made
    have member : artifact.body ∈ artifacts.map Artifact.body := List.mem_map_of_mem mem
    have mirrors := (mirroredBy_bodies alters
      (fun kind => distinct.sublist (bucket_sublist compared kind)) bodies).2 _ member
    have kind : artifact.kind ≠ .create := kind_of_alter alters bodies _ member
    rw [if_neg kind, List.filterMap_eq_nil_iff]
    intro operation ho
    obtain ⟨n, -, column⟩ := mirrors.column? operation ho
    exact Operation.index?_of_column? column

end TableDiff

/-- **What is known of the indexes of a declaration.** There is one for each index token, in
order. Its columns are words, and it can be made if they are not only bars and none of them
begins with a digit; of that nothing is checked. An artifact of the declaration makes these
indexes and no others if it creates the table, and none if it does anything else. -/
theorem columns_of_declared_indexes {text : String} {decl : TableDecl}
    (parsed : TableDecl.parse text = .ok decl) :
    List.Forall₂ (fun token index => ∃ columns,
        token = index.kind.keyword ++ ":" ++ columns ∧
        index.columns = TableDecl.columnsBetween columns ∧
        (∀ n ∈ index.columns, IsWord n ∧ n ≠ "") ∧
        (index.IsSound ↔ (∃ c ∈ columns.toList, c ≠ '|') ∧
          ∀ n ∈ index.columns, ∀ c ∈ n.toList.head?, c.isDigit = false))
      (TableDecl.indexTokens text) decl.indexes ∧
    ∀ {σ : Type} (archive : Archive (StateM σ)) (options : RunOptions) (inspector : Inspector)
      (now : Instant) (s : σ),
      ∀ artifact ∈ ((archive.generate options inspector now text).run s).1.artifacts,
        (artifact.forward ++ artifact.inverse).filterMap Operation.index? =
          if artifact.kind = .create then decl.indexes else [] := by
  constructor
  · obtain ⟨first, name, body, -, declares⟩ := TableDecl.exists_declares_of_parse parsed
    exact declares.indexes.imp fun token index h => TableDecl.exists_columns_of_declaresIndex h
  · intro σ archive options inspector now s artifact made
    obtain ⟨tableExists, diff, artifacts, compared, called, mem⟩ :=
      Archive.exists_compare_of_mem_artifacts parsed made
    exact TableDiff.indexes_of_artifacts (TableDecl.nodup_columnNames_of_parse parsed) compared
      called mem

namespace CodedOrders

/-- Orders with a code of which no two of one name are the same. -/
def text : String := "orders:name,code,unique:name|code"

/-- The orders that the text declares. -/
def decl : TableDecl where
  name := "orders"
  columns := [⟨"name", .string, false, .empty⟩, ⟨"code", .string, false, .empty⟩]
  flags := ⟨false, false⟩
  indexes := [⟨.unique, ["name", "code"], none⟩]

theorem parsed : TableDecl.parse text = .ok decl := eq_ok_of_any_beq (by decide +kernel)

end CodedOrders

/-- The index over name and code can be made. -/
theorem columns_of_declared_indexes_orders :
    TableDecl.parse CodedOrders.text = .ok CodedOrders.decl ∧
    ∀ index ∈ CodedOrders.decl.indexes, index.IsSound := by
  refine ⟨CodedOrders.parsed, List.forall_mem_singleton.2 ?_⟩
  have listed := (columns_of_declared_indexes CodedOrders.parsed).1
  rw [CodedOrders.decl, List.forall₂_cons_right_iff] at listed
  obtain ⟨token, later, ⟨columns, -, between, -, sound⟩, -⟩ := listed
  have heads : ∀ n ∈ ["name", "code"], (n.toList.head?.all fun c => !c.isDigit) = true := by decide
  refine sound.2 ⟨?_, fun n hn c hc => ?_⟩
  · by_contra bars
    push Not at bars
    rw [TableDecl.columnsBetween_eq_nil_iff.2 bars] at between
    cases between
  · have plain := heads n hn
    rw [Option.mem_def.1 hc] at plain
    simpa using plain

namespace BareOrders

/-- Orders with an index over nothing and an index over what no column can be named. -/
def text : String := "orders:name,index:|,unique:2fa|name"

/-- The orders that the text declares. -/
def decl : TableDecl where
  name := "orders"
  columns := [⟨"name", .string, false, .empty⟩]
  flags := ⟨false, false⟩
  indexes := [⟨.plain, [], none⟩, ⟨.unique, ["2fa", "name"], none⟩]

end BareOrders

/-- Neither of these indexes can be made, and the text is accepted. -/
theorem unsound_indexes_are_accepted : TableDecl.parse BareOrders.text = .ok BareOrders.decl ∧
    ∀ index ∈ BareOrders.decl.indexes, ¬ index.IsSound := by
  refine ⟨eq_ok_of_any_beq (by decide +kernel), List.forall_mem_cons.2 ⟨?_, ?_⟩⟩
  · exact fun sound => sound.nonempty rfl
  · rw [List.forall_mem_singleton]
    intro sound
    have named : isIdentifier "2fa" = true := sound.named "2fa" List.mem_cons_self
    revert named
    decide

end SchemaPlan
