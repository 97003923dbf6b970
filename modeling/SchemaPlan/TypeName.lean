import SchemaPlan.ColumnKind
import SchemaPlan.Text.Blank
import SchemaPlan.Text.Pieces

/-!
# Type names and when they agree

A declaration and a live database name the same type in different ways:
`bigInteger`, `BIGINT(20) UNSIGNED`, `Types\BigIntType`. Both are brought to
one canonical name, in lower case and without namespace and parameters, and
compared there. Synonyms are rows of a table, so a new spelling is a new
row.

Two types agree when their canonical names are equal, when one is
`datetime` and the other `timestamp`, which databases report for each
other, or when the pair is one of a few known to be stored alike. The
storage type of a kind is the canonical name a column of it has once it is
live, and `kindStoredAs?` goes back from there to a plain kind.
-/

namespace SchemaPlan.TypeName

/-! ## Canonical names -/

/-- The spellings of each canonical name. A key has lost its namespace and
its parameters and is in lower case. -/
def synonyms : List (String × String) :=
  [("tinyint", "tinyint"), ("tinyinteger", "tinyint"),
   ("smallint", "smallint"), ("smallinteger", "smallint"), ("int2", "smallint"),
   ("smallserial", "smallint"),
   ("mediumint", "mediumint"), ("mediuminteger", "mediumint"),
   ("integer", "integer"), ("int", "integer"), ("int4", "integer"), ("serial", "integer"),
   ("increments", "integer"), ("unsignedinteger", "integer"),
   ("bigint", "bigint"), ("biginteger", "bigint"), ("int8", "bigint"), ("bigserial", "bigint"),
   ("bigincrements", "bigint"), ("unsignedbiginteger", "bigint"), ("id", "bigint"),
   ("decimal", "decimal"), ("numeric", "decimal"),
   ("float", "float"), ("real", "float"), ("float4", "float"),
   ("double", "double"), ("double precision", "double"), ("float8", "double"),
   ("bool", "boolean"), ("boolean", "boolean"),
   ("string", "string"), ("varchar", "string"), ("character varying", "string"),
   ("nvarchar", "string"),
   ("char", "char"), ("character", "char"), ("bpchar", "char"), ("nchar", "char"),
   ("tinytext", "tinytext"), ("text", "text"), ("clob", "text"),
   ("mediumtext", "mediumtext"), ("longtext", "longtext"),
   ("date", "date"), ("datetime", "datetime"), ("datetimetz", "timestamptz"),
   ("time", "time"), ("time without time zone", "time"),
   ("timestamp", "timestamp"), ("timestamp without time zone", "timestamp"),
   ("timestamptz", "timestamptz"), ("timestamp with time zone", "timestamptz"),
   ("year", "year"),
   ("json", "json"), ("jsonb", "jsonb"),
   ("uuid", "uuid"), ("guid", "uuid"), ("ulid", "ulid"), ("enum", "enum"),
   ("binary", "binary"), ("blob", "binary"), ("bytea", "binary"), ("varbinary", "binary"),
   ("ipaddress", "ipaddress"), ("inet", "ipaddress"),
   ("macaddress", "macaddress"), ("macaddr", "macaddress"),
   ("geometry", "geometry"), ("point", "point"), ("linestring", "linestring"),
   ("polygon", "polygon")]

/-- The canonical name of a known spelling. The key has to be in lower case,
with one space between words; no other key is found. -/
def lookup? (key : String) : Option String :=
  (synonyms.find? fun row => row.1 == key).map fun row => row.2

/-- The name without what stands before the last occurrence of a namespace
separator, if it has one. -/
def withoutNamespace (separator name : String) : String :=
  (Text.afterLast? separator name).getD name

/-- The name without namespaces, for the three separators in turn, and
without everything from the first opening bracket on. -/
def base (raw : String) : String :=
  let bare := withoutNamespace "." (withoutNamespace "::" (withoutNamespace "\\" (Text.trim raw)))
  match Text.cutAt? '(' bare with
  | some (before, _) => before
  | none => bare

/-- A list of words without a closing `unsigned`, unless that is the only
word. -/
def withoutUnsigned (words : List String) : List String :=
  if 1 < words.length ∧ words.getLast? = some "unsigned" then words.dropLast else words

/-- The base name in lower case, its words one space apart and without a
closing `unsigned`. -/
def plain (raw : String) : String :=
  " ".intercalate (withoutUnsigned (Text.words (Text.lower (base raw))))

/-- The canonical name of a type: that of a known spelling, with or without
the ending `type`, and the plain name itself when it is not known. -/
def canonical (raw : String) : String :=
  let name := plain raw
  match lookup? name with
  | some known => known
  | none => ((Text.withoutEnding? "type" name).bind lookup?).getD name

/-! ## Agreement -/

/-- The canonical names that databases report for each other: the reported
name, the name on the other side, and the name to read. -/
def reportedFor : List (String × String × String) :=
  [("datetime", "timestamp", "timestamp"), ("timestamp", "datetime", "datetime")]

/-- The canonical name of a type as seen from another type it is compared
with: of `datetime` and `timestamp` it takes the one on the other side. -/
def normalize (raw : String) (other : Option String) : String :=
  let name := canonical raw
  match other with
  | none => name
  | some text =>
    let seenFrom := canonical text
    match reportedFor.find? fun row => row.1 == name && row.2.1 == seenFrom with
    | some row => row.2.2
    | none => name

/-- The storage of the kinds that refer to another table, by the kind's
canonical name. -/
def referenceStorage : List (String × String) :=
  [("foreignid", "bigint"), ("foreignuuid", "uuid")]

/-- Declared and live names that are stored alike although their canonical
names differ. -/
def looseEquivalents : List (String × String) :=
  [("boolean", "tinyint")]

/-- Whether a declared type and a live canonical name are a pair known to be
stored alike. The ASCII case of the declared type is ignored. -/
def isCompatible (declared live : String) : Bool :=
  (referenceStorage ++ looseEquivalents).any fun row =>
    row.1 == Text.lower declared && row.2 == live

/-- Whether a column of a kind can stand for a column of a live type: the
live type is read as seen from the kind's name, the name as seen from the
result, and the two are equal or a compatible pair. -/
def agrees (kind : ColumnKind) (live : String) : Bool :=
  let found := normalize live (some kind.name)
  let requested := normalize kind.name (some found)
  found == requested || isCompatible kind.name found

/-! ## Storage -/

/-- The canonical name of the type a column of the kind is stored as. -/
def storage (kind : ColumnKind) : String :=
  let name := canonical kind.name
  match referenceStorage.find? fun row => row.1 == name with
  | some row => row.2
  | none => name

/-- The first kind, in order of preference, that is stored as the given
type. -/
def kindStoredAs? (type : String) : Option ColumnKind :=
  ColumnKind.all.find? fun kind => storage kind == type

end SchemaPlan.TypeName
