import Mathlib.Data.List.Sort
import SchemaPlan.Database.Sqlite
import SchemaPlan.Proofs.CreationReplay
import SchemaPlan.Proofs.OctetOrder
import SchemaPlan.Proofs.OneCreation
import SchemaPlan.Proofs.Planning
import SchemaPlan.Text.Ascii

/-!
# What a snapshot shows

A run compares with the tables that it sees, and creates the one that it does not. Of a SQLite
database it sees the tables whose names do not match `sqlite_%`. Names that begin with `sqlite_`
are kept by SQLite to itself, and they match. But `_` stands for any character in a pattern, so
`sqlite3_logs`, which anybody may call a table, matches as well
(`Sqlite.isShown_eq_false_iff`): it is left out of the snapshot, and a run on it does not alter
the table but creates another one.

The tables that are shown come in the order of their names, octet by octet, and have the columns
that SQLite lists for them, in the order of their places (`Sqlite.tables_of_snapshot`). They are
put into the snapshot one behind the other because no two have one name.

A snapshot knows a table by the very letters of its name. SQLite does not tell letters of ASCII
apart by their case: it has only one of `orders` and `Orders`, and finds it by either name. So a
run on `orders` creates the table as well where the database has it as `Orders`.
-/

namespace SchemaPlan

namespace Sqlite

variable {cs front pattern : List Char} {name other : String} {db : Database} {table : LiveTable}

/-! ## Patterns -/

/-- **A text matches a pattern**: `%` stands for any text, `_` for any one character, and any
other character for itself, in either case of ASCII. -/
inductive Matches : List Char → List Char → Prop
  | nil : Matches [] []
  | text (skipped : List Char) {pattern rest : List Char} (later : Matches pattern rest) :
    Matches ('%' :: pattern) (skipped ++ rest)
  | any (c : Char) {pattern rest : List Char} (later : Matches pattern rest) :
    Matches ('_' :: pattern) (c :: rest)
  | self {p c : Char} (plain : p ≠ '%' ∧ p ≠ '_') (same : p.toLower = c.toLower)
    {pattern rest : List Char} (later : Matches pattern rest) : Matches (p :: pattern) (c :: rest)

theorem matches_percent_iff : Matches ('%' :: pattern) cs ↔
    ∃ n < cs.length + 1, Matches pattern (cs.drop n) := by
  constructor
  · intro h
    cases h with
    | text skipped later =>
      refine ⟨skipped.length, Nat.lt_succ_of_le (List.length_append ▸ Nat.le_add_right _ _), ?_⟩
      rwa [List.drop_left]
    | self plain => exact absurd rfl plain.1
  · rintro ⟨n, -, later⟩
    exact List.take_append_drop n cs ▸ .text (cs.take n) later

theorem matches_cons_iff {p : Char} (other : p ≠ '%') : Matches (p :: pattern) cs ↔
    ∃ c rest, cs = c :: rest ∧ (p = '_' ∨ p.toLower = c.toLower) ∧ Matches pattern rest := by
  constructor
  · intro h
    cases h with
    | text => exact absurd rfl other
    | any c later => exact ⟨c, _, rfl, .inl rfl, later⟩
    | self _ same later => exact ⟨_, _, rfl, .inr same, later⟩
  · rintro ⟨c, rest, rfl, one, later⟩
    by_cases wild : p = '_'
    · subst wild
      exact .any c later
    · exact .self ⟨other, wild⟩ (one.resolve_left wild) later

/-- **The rule for patterns is carried out.** -/
theorem matchesPattern_iff : matchesPattern pattern cs = true ↔ Matches pattern cs := by
  induction pattern generalizing cs with
  | nil =>
    refine List.isEmpty_iff.trans ⟨?_, ?_⟩
    · rintro rfl
      exact .nil
    · rintro ⟨⟩
      rfl
  | cons p pattern ih =>
    unfold matchesPattern
    split
    case isTrue percent =>
      subst percent
      simp only [matches_percent_iff, List.any_eq_true, List.mem_range, ih]
    case isFalse other =>
      rw [matches_cons_iff other]
      cases cs with
      | nil => simp
      | cons c rest => simp [ih]

/-- Ordinary characters in front of a pattern are spelled out in front of the text. -/
theorem matches_append_iff (plain : ∀ p ∈ front, p ≠ '%' ∧ p ≠ '_') :
    Matches (front ++ pattern) cs ↔ ∃ start rest, cs = start ++ rest ∧
      start.map Char.toLower = front.map Char.toLower ∧ Matches pattern rest := by
  induction front generalizing cs with
  | nil => simp
  | cons p front ih =>
    rw [List.forall_mem_cons] at plain
    rw [List.cons_append, matches_cons_iff plain.1.1]
    simp only [or_iff_right plain.1.2, ih plain.2]
    constructor
    · rintro ⟨c, _, rfl, same, start, rest, rfl, spelled, later⟩
      exact ⟨c :: start, rest, rfl, by rw [List.map_cons, List.map_cons, same, spelled], later⟩
    · rintro ⟨_, rest, rfl, spelled, later⟩
      obtain ⟨c, start, rfl, same, spelled⟩ := List.map_eq_cons_iff.1 spelled
      exact ⟨c, _, rfl, same.symm, start, rest, rfl, spelled, later⟩

theorem matches_rest_iff : Matches ['_', '%'] cs ↔ cs ≠ [] := by
  have whole (rest : List Char) : Matches ['%'] rest :=
    List.append_nil rest ▸ .text rest .nil
  rw [matches_cons_iff (by decide)]
  constructor
  · rintro ⟨c, rest, rfl, -⟩
    exact List.cons_ne_nil c rest
  · intro nonempty
    obtain ⟨c, rest, rfl⟩ := List.exists_cons_of_ne_nil nonempty
    exact ⟨c, rest, rfl, .inl rfl, whole rest⟩

/-! ## Names that are not shown -/

/-- The name begins with `sqlite_`, in either case of ASCII: SQLite keeps it to itself. -/
def IsReserved (name : String) : Prop :=
  "sqlite_".toList <+: (Text.lower name).toList

/-- The name begins with `sqlite` and goes on, but not with `_`, so anybody may give it. -/
def IsOverlooked (name : String) : Prop :=
  "sqlite".toList <+: (Text.lower name).toList ∧ Text.lower name ≠ "sqlite" ∧ ¬ IsReserved name

instance (name : String) : Decidable (IsReserved name) :=
  inferInstanceAs (Decidable (_ <+: _))

instance (name : String) : Decidable (IsOverlooked name) :=
  inferInstanceAs (Decidable (_ ∧ _ ∧ _))

theorem toList_lower (name : String) : (Text.lower name).toList = name.toList.map Char.toLower :=
  String.toList_ofList

theorem isShown_eq_false_iff_begins : isShown name = false ↔
    "sqlite".toList <+: (Text.lower name).toList ∧ Text.lower name ≠ "sqlite" := by
  have cut : "sqlite_%".toList = "sqlite".toList ++ ['_', '%'] := by decide
  have letters : ∀ p ∈ "sqlite".toList, p ≠ '%' ∧ p ≠ '_' := fun p hp =>
    ⟨ne_of_mem_of_not_mem hp (by decide), ne_of_mem_of_not_mem hp (by decide)⟩
  rw [isShown, Bool.not_eq_false', cut, matchesPattern_iff, matches_append_iff letters,
    ← String.toList_inj.ne, toList_lower]
  constructor
  · rintro ⟨start, rest, whole, spelled, more⟩
    rw [matches_rest_iff] at more
    have spelled : start.map Char.toLower = "sqlite".toList := spelled
    rw [whole, List.map_append, spelled]
    refine ⟨List.prefix_append _ _, fun same => more ?_⟩
    exact List.map_eq_nil_iff.1 (List.append_right_eq_self.1 same)
  · rintro ⟨⟨more, same⟩, longer⟩
    obtain ⟨start, rest, whole, spelled, rfl⟩ := List.map_eq_append_iff.1 same.symm
    refine ⟨start, rest, whole, spelled, matches_rest_iff.2 ?_⟩
    rintro rfl
    rw [← same, List.map_nil, List.append_nil] at longer
    exact longer rfl

/-- **Which names are hidden**: those that SQLite keeps to itself, and the overlooked ones. -/
theorem isShown_eq_false_iff : isShown name = false ↔ IsReserved name ∨ IsOverlooked name := by
  have reserved : IsReserved name →
      "sqlite".toList <+: (Text.lower name).toList ∧ Text.lower name ≠ "sqlite" := by
    intro h
    refine ⟨.trans (by decide) h, fun same => ?_⟩
    rw [IsReserved, same] at h
    exact absurd h (by decide)
  rw [isShown_eq_false_iff_begins, IsOverlooked, ← and_assoc]
  constructor
  · exact fun h => or_iff_not_imp_left.2 fun free => ⟨h, free⟩
  · rintro (h | ⟨h, -⟩)
    · exact reserved h
    · exact h

theorem isShown_iff : isShown name = true ↔ ¬ IsReserved name ∧ ¬ IsOverlooked name := by
  rw [← not_or, ← isShown_eq_false_iff, Bool.not_eq_false]

/-- Names that differ in the case of letters alone are reserved together. -/
theorem isReserved_congr (same : Text.lower name = Text.lower other) :
    IsReserved name ↔ IsReserved other := by
  rw [IsReserved, IsReserved, same]

theorem isOverlooked_congr (same : Text.lower name = Text.lower other) :
    IsOverlooked name ↔ IsOverlooked other := by
  rw [IsOverlooked, IsOverlooked, isReserved_congr same, same]

/-! ## The tables of a database -/

/-- The names of all tables of a database. -/
def Database.tables (db : Database) : List String :=
  (db.entries.filter fun entry => entry.type == "table").map fun entry => entry.name

/-- **A database has tables with names of their own**, whatever the case of their letters. -/
def Database.HasDistinctTables (db : Database) : Prop :=
  (db.tables.map Text.lower).Nodup

instance (db : Database) : Decidable db.HasDistinctTables :=
  inferInstanceAs (Decidable (List.Nodup _))

/-- The tables that are listed are tables of the database. -/
theorem tableNames_perm (db : Database) : (tableNames db).Perm (db.tables.filter isShown) := by
  refine (List.mergeSort_perm _ _).trans (List.Perm.of_eq ?_)
  rw [Database.tables, List.filter_map, List.filter_filter]
  refine congrArg _ (List.filter_congr fun entry _ => ?_)
  exact Bool.and_comm _ _

/-- **Which tables are listed**: those of the database whose names are not hidden. -/
theorem mem_tableNames_iff : name ∈ tableNames db ↔
    name ∈ db.tables ∧ ¬ IsReserved name ∧ ¬ IsOverlooked name := by
  rw [(tableNames_perm db).mem_iff, List.mem_filter, isShown_iff]

theorem nodup_tableNames (distinct : db.HasDistinctTables) : (tableNames db).Nodup :=
  (tableNames_perm db).nodup_iff.2 ((List.Nodup.of_map _ distinct).filter _)

/-- **Names come in the order of their octets.** -/
theorem pairwise_tableNames (distinct : db.HasDistinctTables) :
    ((tableNames db).map Text.octets).Pairwise (· < ·) := by
  have sorted : (tableNames db).Pairwise (· ≤ ·) :=
    List.pairwise_mergeSort' (· ≤ ·) _
  refine List.pairwise_map.2 ((sorted.and (nodup_tableNames distinct)).imp ?_)
  rintro a b ⟨before, other⟩
  have less : a < b := Std.lt_of_le_of_ne before other
  exact Text.octets_lt less

/-- **Columns come in the order of their places**, and every row is there. -/
theorem exists_rows_of_columns (db : Database) (name : String) :
    ∃ rows : List ColumnInfo, rows.Perm (db.columnInfo name) ∧
      (rows.Pairwise fun a b => a.place ≤ b.place) ∧ columns db name = rows.map ColumnInfo.live := by
  have transitive : IsTrans ColumnInfo fun a b => a.place ≤ b.place :=
    ⟨fun _ _ _ => Nat.le_trans⟩
  have total : Std.Total fun a b : ColumnInfo => a.place ≤ b.place :=
    ⟨fun a b => Nat.le_total a.place b.place⟩
  exact ⟨_, List.mergeSort_perm _ _, List.pairwise_mergeSort' _ _, rfl⟩

/-! ## The snapshot -/

/-- **The snapshot has the tables that are listed**, in their order. -/
theorem tables_snapshot (distinct : db.HasDistinctTables) :
    (snapshot db).tables = (tableNames db).map fun name => ⟨name, columns db name⟩ := by
  have names : ((Catalog.empty.tables ++ (tableNames db).map fun name =>
      (⟨name, columns db name⟩ : LiveTable)).map fun t => t.name).Nodup := by
    have same : (fun t : LiveTable => t.name) ∘
        (fun name => (⟨name, columns db name⟩ : LiveTable)) = id := rfl
    rw [Catalog.empty, List.nil_append, List.map_map, same, List.map_id]
    exact nodup_tableNames distinct
  rw [snapshot, ← List.foldl_map (g := Catalog.put), Catalog.foldl_put_of_nodup names]
  rfl

/-- A snapshot knows a table by its very name. -/
theorem isLive_snapshot_eq_false_iff (distinct : db.HasDistinctTables) :
    (Inspector.online (snapshot db)).isLive name = .ok false ↔ name ∉ tableNames db := by
  have seen : ((snapshot db).table? name).isSome = true ↔ name ∈ tableNames db := by
    rw [Catalog.table?, tables_snapshot distinct, List.find?_isSome]
    simp
  simp [← Bool.not_eq_true, seen]

/-- **A table of the database is not seen** if its name is hidden, or if it is not spelled as in
the database. -/
theorem notMem_tableNames_iff (distinct : db.HasDistinctTables) (member : name ∈ db.tables)
    (same : Text.lower name = Text.lower other) :
    other ∉ tableNames db ↔ IsReserved name ∨ IsOverlooked name ∨ name ≠ other := by
  have spelled : other ∈ db.tables ↔ name = other :=
    ⟨fun found => List.inj_on_of_nodup_map distinct member found same, fun h => h ▸ member⟩
  rw [mem_tableNames_iff, spelled, isReserved_congr same, isOverlooked_congr same]
  tauto

end Sqlite

/-! ## Runs on a database -/

namespace Archive

variable {σ : Type} {archive : Archive (StateM σ)} {options : RunOptions} {inspector : Inspector}
  {now : Instant} {text : String} {s : σ} {decl : TableDecl}

/-- **When a run creates its table**: the archive is listed and has no creation of it, the
table is known not to be live, and the options of the columns are valid. -/
theorem exists_creation_iff (parsed : TableDecl.parse text = .ok decl) :
    (∃ artifact ∈ ((archive.generate options inspector now text).run s).1.artifacts,
        artifact.kind = .create) ↔
      inspector.isLive decl.name = .ok false ∧
      (∃ names, (archive.names.run s).1 = .ok names ∧ creates names decl.name = false) ∧
      ∀ c ∈ TableDiff.explicitColumns decl, ∃ spec, ColumnSpec.ofDecl c = .ok spec := by
  constructor
  · rintro ⟨artifact, made, created⟩
    obtain ⟨names, plan, artifacts, listed, planned, called, member⟩ :=
      exists_plan_of_mem_artifacts parsed made
    obtain ⟨tableExists, diff, found, compared, rfl⟩ := Plan.make_eq_ok_iff.1 planned
    cases tableExists with
    | true =>
      obtain ⟨columns, -, altered⟩ := bind_eq_ok_iff.1 compared
      cases altered
      exact absurd created (Plan.of_artifacts_alter rfl called artifact member).2
    | false =>
      cases compared
      obtain ⟨unstored, unseen⟩ := Plan.findsTable_eq_false_iff.1 found
      obtain ⟨specs, -, described, -⟩ := TableDiff.exists_specs_of_creation called
      exact ⟨unseen, ⟨names, listed, unstored⟩, fun c hc =>
        (exists_of_mapM_eq_ok described hc).imp fun spec h => h.2⟩
  · rintro ⟨unseen, ⟨names, listed, unstored⟩, valid⟩
    obtain ⟨specs, described⟩ := exists_mapM_eq_ok valid
    rw [artifacts_generate_creation parsed listed unstored unseen
      (TableDiff.artifacts_creation described now)]
    exact ⟨_, List.mem_singleton_self _, rfl⟩

end Archive

namespace Sqlite

namespace LoggedOrders

/-- What is listed of the orders. Their second column is computed from others, so it has no row,
and their key excludes NULL. -/
def orderRows : List ColumnInfo :=
  [⟨0, "number", "INTEGER", 1⟩, ⟨2, "note", "varchar(255)", 0⟩]

/-- A database with logs, orders, an index and a view of them, and the book-keeping of SQLite. -/
def db : Database where
  entries := [⟨"table", "sqlite3_logs"⟩, ⟨"table", "Orders"⟩, ⟨"index", "sqlite_autoindex_Orders_1"⟩,
    ⟨"view", "open_orders"⟩, ⟨"table", "sqlite_sequence"⟩]
  columnInfo name :=
    if Text.lower name = "orders" then orderRows
    else if Text.lower name = "sqlite3_logs" then [⟨0, "line", "TEXT", 1⟩]
    else []

/-- A declaration of the logs with one more column. -/
def text : String := "sqlite3_logs:line:text,level:integer"

/-- What it declares. -/
def decl : TableDecl where
  name := "sqlite3_logs"
  columns := [.new "line" .text, .new "level" .integer]
  flags := ⟨false, false⟩
  indexes := []

/-- A declaration of the orders, in small letters. -/
def ordersText : String := "orders:number:integer"

/-- What it declares. -/
def ordersDecl : TableDecl where
  name := "orders"
  columns := [.new "number" .integer]
  flags := ⟨false, false⟩
  indexes := []

theorem parsed : TableDecl.parse text = .ok decl := eq_ok_of_any_beq (by decide +kernel)

theorem parsed_orders : TableDecl.parse ordersText = .ok ordersDecl :=
  eq_ok_of_any_beq (by decide +kernel)

theorem valid : ∀ c ∈ TableDiff.explicitColumns decl, ∃ spec, ColumnSpec.ofDecl c = .ok spec := by
  intro c hc
  have listed : c ∈ decl.columns := List.mem_of_mem_filter (List.mem_of_mem_filter hc)
  simp only [decl, List.mem_cons, List.not_mem_nil, or_false] at listed
  rcases listed with rfl | rfl
  · exact ⟨.new "line" .text, rfl⟩
  · exact ⟨.new "level" .integer, rfl⟩

theorem valid_orders :
    ∀ c ∈ TableDiff.explicitColumns ordersDecl, ∃ spec, ColumnSpec.ofDecl c = .ok spec := by
  intro c hc
  have listed : c ∈ ordersDecl.columns := List.mem_of_mem_filter (List.mem_of_mem_filter hc)
  simp only [ordersDecl, List.mem_singleton] at listed
  subst listed
  exact ⟨.new "number" .integer, rfl⟩

/-- A run of a declaration on a database, on an archive that is empty. -/
def run (db : Database) (text : String) : RunReport × List (String × String) :=
  ((Archive.memory 1).generate ⟨false, .standard⟩ (.online (snapshot db))
    LongerNotes.start text).run []

end LoggedOrders

/-- A table of logs, created by a plain statement. -/
def LoggedOrders.logs : Object := .table "sqlite3_logs" [⟨"line", "text", true⟩]

end Sqlite

end SchemaPlan
