import SchemaPlan.ColumnKind
import SchemaPlan.Declaration.Options

/-!
# Declared columns

A column as a table declaration describes it: a name, a kind and options.
What the options mean is read here, one question at a time. A yes-or-no
option is set by its bare flag or by the text `true` in any ASCII case; a
column refers to another table when its kind says so or when one of the
three reference options is present in any form.
-/

namespace SchemaPlan

/-- A column of a table declaration. Its options are kept as written: one that
the kind has no use for is ignored, and one that cannot be used is noticed when
a migration is made. -/
structure ColumnDecl where
  /-- The name, unique in its table. -/
  name : String
  /-- The kind of the column. -/
  kind : ColumnKind
  /-- Whether the kind was written, and not taken as the default. -/
  kindDeclared : Bool
  /-- The options of the column. -/
  options : Options
deriving DecidableEq

namespace ColumnDecl

/-- A column with a written kind and no options. -/
def new (name : String) (kind : ColumnKind) : ColumnDecl where
  name := name
  kind := kind
  kindDeclared := true
  options := .empty

/-- The column with a bare flag added. -/
def withFlag (column : ColumnDecl) (key : String) : ColumnDecl :=
  { column with options := column.options.insert key .flag }

/-- The column with an option added that has a text. -/
def withValue (column : ColumnDecl) (key text : String) : ColumnDecl :=
  { column with options := column.options.insert key (.value text) }

/-! ## Reading options -/

/-- Whether the option is present in any form. This, and not whether it is set,
decides whether a reference option makes a column a foreign key. -/
def has (column : ColumnDecl) (key : String) : Bool :=
  (column.options.get? key).isSome

/-- Whether a yes-or-no option is set, by its bare flag or by the text `true`
in whatever case. Any other text leaves it unset, without a fault. -/
def isSet (column : ColumnDecl) (key : String) : Bool :=
  match column.options.get? key with
  | some .flag => true
  | some (.value text) => Text.equalIgnoringCase text "true"
  | _ => false

/-- The text of an option that has one. A bare flag has none, nor has a list;
an empty text is a text. -/
def value? (column : ColumnDecl) (key : String) : Option String :=
  match column.options.get? key with
  | some (.value text) => some text
  | _ => none

/-- The list of an option that has one. Only the values of an enumeration are
read as a list. -/
def list? (column : ColumnDecl) (key : String) : Option (List String) :=
  match column.options.get? key with
  | some (.list items) => some items
  | _ => none

/-- Whether the column is declared to accept NULL. -/
def isNullable (column : ColumnDecl) : Bool :=
  column.isSet "nullable"

/-- Whether the column is marked for removal. -/
def isMarkedForDrop (column : ColumnDecl) : Bool :=
  column.isSet "drop"

/-- Whether the column refers to another table. Any of the three reference
options says so, be it a bare flag or with a text of whatever sort. -/
def isForeignKey (column : ColumnDecl) : Bool :=
  column.kind.isReference || column.has "constrained" || column.has "references" ||
    column.has "on"

/-- The column as it was before it was marked for removal. What is put back
when a removal is undone is made from this. -/
def withoutDrop (column : ColumnDecl) : ColumnDecl :=
  { column with options := column.options.erase "drop" }

/-- Whether the column, named `id`, says no more than the primary key that
every table gets by itself: a default kind and not `primary`. -/
def isDefaultKey (column : ColumnDecl) : Bool :=
  (column.kind == .id || !column.kindDeclared) && !column.isSet "primary"

/-! ## What stays when an option is added or erased

Name and kind do, and of the options all others; those are known by
`Options.get?_insert_of_ne` and `Options.get?_erase_of_ne`. -/

section Kept

variable (column : ColumnDecl) (key text : String)

@[simp] theorem name_withValue : (column.withValue key text).name = column.name := rfl

@[simp] theorem kind_withValue : (column.withValue key text).kind = column.kind := rfl

@[simp] theorem options_withValue :
    (column.withValue key text).options = column.options.insert key (.value text) := rfl

@[simp] theorem name_withoutDrop : column.withoutDrop.name = column.name := rfl

@[simp] theorem kind_withoutDrop : column.withoutDrop.kind = column.kind := rfl

@[simp] theorem options_withoutDrop :
    column.withoutDrop.options = column.options.erase "drop" := rfl

end Kept

end ColumnDecl

end SchemaPlan
