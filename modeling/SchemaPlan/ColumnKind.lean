import SchemaPlan.Text.Ascii

/-!
# Column kinds

The closed set of kinds a declared column can have. Each kind has one name
in a table declaration, and a name in any mix of ASCII case denotes the kind
it spells. The list `ColumnKind.all` is in order of preference: kinds that
only describe storage come before those that make a key or a reference, so
that a search for a kind with a given storage type meets the plain one
first.
-/

namespace SchemaPlan

/-- The kind of a declared column. Several kinds may be stored as one type, and
a type may be stored that belongs to no kind. -/
inductive ColumnKind where
  | tinyInteger
  | smallInteger
  | mediumInteger
  | integer
  | bigInteger
  | decimal
  | float
  | double
  | boolean
  | char
  | string
  | tinyText
  | text
  | mediumText
  | longText
  | date
  | dateTime
  | dateTimeTz
  | time
  | timestamp
  | timestampTz
  | year
  | json
  | jsonb
  | uuid
  | ulid
  | enum
  | binary
  | ipAddress
  | macAddress
  | geometry
  | point
  | lineString
  | polygon
  | unsignedInteger
  | unsignedBigInteger
  | increments
  | bigIncrements
  | id
  | foreignId
  | foreignUuid
deriving DecidableEq, Repr

namespace ColumnKind

/-- Every kind, plain storage kinds first. The order matters where a kind is
sought for a type: the first that fits is taken. -/
def all : List ColumnKind :=
  [tinyInteger, smallInteger, mediumInteger, integer, bigInteger, decimal, float, double,
   boolean, char, string, tinyText, text, mediumText, longText, date, dateTime, dateTimeTz,
   time, timestamp, timestampTz, year, json, jsonb, uuid, ulid, enum, binary, ipAddress,
   macAddress, geometry, point, lineString, polygon, unsignedInteger, unsignedBigInteger,
   increments, bigIncrements, id, foreignId, foreignUuid]

/-- The name of the kind in a table declaration. -/
def name : ColumnKind → String
  | tinyInteger => "tinyInteger"
  | smallInteger => "smallInteger"
  | mediumInteger => "mediumInteger"
  | integer => "integer"
  | bigInteger => "bigInteger"
  | decimal => "decimal"
  | float => "float"
  | double => "double"
  | boolean => "boolean"
  | char => "char"
  | string => "string"
  | tinyText => "tinyText"
  | text => "text"
  | mediumText => "mediumText"
  | longText => "longText"
  | date => "date"
  | dateTime => "dateTime"
  | dateTimeTz => "dateTimeTz"
  | time => "time"
  | timestamp => "timestamp"
  | timestampTz => "timestampTz"
  | year => "year"
  | json => "json"
  | jsonb => "jsonb"
  | uuid => "uuid"
  | ulid => "ulid"
  | enum => "enum"
  | binary => "binary"
  | ipAddress => "ipAddress"
  | macAddress => "macAddress"
  | geometry => "geometry"
  | point => "point"
  | lineString => "lineString"
  | polygon => "polygon"
  | unsignedInteger => "unsignedInteger"
  | unsignedBigInteger => "unsignedBigInteger"
  | increments => "increments"
  | bigIncrements => "bigIncrements"
  | id => "id"
  | foreignId => "foreignId"
  | foreignUuid => "foreignUuid"

/-- The kind as a constant of generated code: its name with a capital. -/
def constant (kind : ColumnKind) : String :=
  Text.capitalize kind.name

/-- The kind that a name denotes, ASCII case ignored. -/
def ofName? (name : String) : Option ColumnKind :=
  all.find? fun kind => Text.equalIgnoringCase kind.name name

/-- Whether a column of this kind refers to another table. -/
def isReference : ColumnKind → Bool
  | foreignId | foreignUuid => true
  | _ => false

/-- Whether the kind may be followed by a length in a declaration. -/
def acceptsLength : ColumnKind → Bool
  | string | char => true
  | _ => false

theorem mem_all (kind : ColumnKind) : kind ∈ all := by
  cases kind <;> decide

end ColumnKind

end SchemaPlan
