import SqlComposer.Calendar.Time
import SqlComposer.Json.Basic
import SqlComposer.Text.Upper
import SqlComposer.Value.Uuid

/-! # SQL values

The values that statements bind, their kinds, the kinds of columns, and the names that JDBC gives to
column types.  `Value.equals` is the equality of values as numbers and texts: a NaN differs from
itself, and the two zeros are equal. -/

namespace SqlComposer

/-- A value that a statement binds or a row holds. -/
inductive Value where
  | null
  | bool (value : Bool)
  | smallInt (value : Int16)
  | int (value : Int32)
  | bigInt (value : Int64)
  | real (value : Binary32)
  | double (value : Binary64)
  | text (value : String)
  | bytes (value : List UInt8)
  | uuid (value : Uuid)
  | json (value : Json)
  | date (value : Date)
  | time (value : Time)
  | timestamp (value : Timestamp)
  | timestampTz (value : Timestamp)
  deriving Repr

/-- The kinds of values that are not null. -/
inductive ValueKind where
  | bool | smallInt | int | bigInt | real | double | text | bytes | uuid | json
  | date | time | timestamp | timestampTz
  deriving DecidableEq, Repr

namespace ValueKind

/-- All kinds. -/
def all : List ValueKind :=
  [.bool, .smallInt, .int, .bigInt, .real, .double, .text, .bytes, .uuid, .json, .date, .time,
    .timestamp, .timestampTz]

theorem mem_all (kind : ValueKind) : kind ∈ all := by cases kind <;> decide

/-- The name of a kind. -/
def name : ValueKind → String
  | .bool => "bool"
  | .smallInt => "smallint"
  | .int => "int"
  | .bigInt => "bigint"
  | .real => "real"
  | .double => "double"
  | .text => "text"
  | .bytes => "bytes"
  | .uuid => "uuid"
  | .json => "json"
  | .date => "date"
  | .time => "time"
  | .timestamp => "timestamp"
  | .timestampTz => "timestamptz"

end ValueKind

/-- The type of the values of a column: one kind, all values, or those of a type that need not be
there. -/
inductive ValueType where
  | exact (kind : ValueKind)
  | any
  | optional (type : ValueType)
  deriving DecidableEq, Repr

namespace Value

/-- Whether a value is the null. -/
def isNull : Value → Bool
  | .null => true
  | _ => false

/-- The kind of a value that is not null. -/
def kind? : Value → Option ValueKind
  | .null => none
  | .bool _ => some .bool
  | .smallInt _ => some .smallInt
  | .int _ => some .int
  | .bigInt _ => some .bigInt
  | .real _ => some .real
  | .double _ => some .double
  | .text _ => some .text
  | .bytes _ => some .bytes
  | .uuid _ => some .uuid
  | .json _ => some .json
  | .date _ => some .date
  | .time _ => some .time
  | .timestamp _ => some .timestamp
  | .timestampTz _ => some .timestampTz

/-- A text in upper case; other values as they are. -/
def upper : Value → Value
  | .text s => .text (upperText s)
  | v => v

/-- Equality of values of one kind; a NaN differs from itself. -/
def equals : Value → Value → Bool
  | .null, .null => true
  | .bool a, .bool b => a == b
  | .smallInt a, .smallInt b => a == b
  | .int a, .int b => a == b
  | .bigInt a, .bigInt b => a == b
  | .real a, .real b => a.equals b
  | .double a, .double b => a.equals b
  | .text a, .text b => a == b
  | .bytes a, .bytes b => a == b
  | .uuid a, .uuid b => a == b
  | .json a, .json b => a.equals b
  | .date a, .date b => a == b
  | .time a, .time b => a == b
  | .timestamp a, .timestamp b => a == b
  | .timestampTz a, .timestampTz b => a == b
  | _, _ => false

end Value

/-! ## Typed values

A program has values of a type.  A statement keeps them without their type, and every absent value
of an optional type is kept as the same null. -/

/-- What the values of a kind are. -/
abbrev ValueKind.Carrier : ValueKind → Type
  | .bool => Bool
  | .smallInt => Int16
  | .int => Int32
  | .bigInt => Int64
  | .real => Binary32
  | .double => Binary64
  | .text => String
  | .bytes => List UInt8
  | .uuid => Uuid
  | .json => Json
  | .date => Date
  | .time => Time
  | .timestamp => Timestamp
  | .timestampTz => Timestamp

namespace ValueKind

/-- A value of a kind as a statement keeps it. -/
def toValue : (kind : ValueKind) → kind.Carrier → Value
  | .bool, x => .bool x
  | .smallInt, x => .smallInt x
  | .int, x => .int x
  | .bigInt, x => .bigInt x
  | .real, x => .real x
  | .double, x => .double x
  | .text, x => .text x
  | .bytes, x => .bytes x
  | .uuid, x => .uuid x
  | .json, x => .json x
  | .date, x => .date x
  | .time, x => .time x
  | .timestamp, x => .timestamp x
  | .timestampTz, x => .timestampTz x

/-- The value of a kind that was kept, if it was one of this kind. -/
def ofValue? : (kind : ValueKind) → Value → Option kind.Carrier
  | .bool, .bool x => some x
  | .smallInt, .smallInt x => some x
  | .int, .int x => some x
  | .bigInt, .bigInt x => some x
  | .real, .real x => some x
  | .double, .double x => some x
  | .text, .text x => some x
  | .bytes, .bytes x => some x
  | .uuid, .uuid x => some x
  | .json, .json x => some x
  | .date, .date x => some x
  | .time, .time x => some x
  | .timestamp, .timestamp x => some x
  | .timestampTz, .timestampTz x => some x
  | _, _ => none

/-- A value of a kind is never kept as null. -/
theorem toValue_ne_null (kind : ValueKind) (x : kind.Carrier) : kind.toValue x ≠ .null := by
  cases kind <;> exact Value.noConfusion

/-- A value of a kind is read back as it was. -/
theorem ofValue?_toValue (kind : ValueKind) (x : kind.Carrier) :
    kind.ofValue? (kind.toValue x) = some x := by
  cases kind <;> rfl

/-- What is read is kept as the value that it was read from. -/
theorem toValue_of_ofValue? {kind : ValueKind} {v : Value} {x : kind.Carrier}
    (h : kind.ofValue? v = some x) : kind.toValue x = v := by
  cases kind <;> cases v <;> cases h <;> rfl

end ValueKind

/-- What the values of a type are. -/
abbrev ValueType.Carrier : ValueType → Type
  | .exact kind => kind.Carrier
  | .any => Value
  | .optional type => Option type.Carrier

namespace ValueType

/-- Whole numbers of 32 bits. -/
abbrev int : ValueType := .exact .int

/-- Texts. -/
abbrev text : ValueType := .exact .text

/-- A value of a type as a statement keeps it: null if it is absent. -/
def toValue : (type : ValueType) → type.Carrier → Value
  | .exact kind, x => kind.toValue x
  | .any, v => v
  | .optional _, none => .null
  | .optional type, some x => type.toValue x

/-- The value of a type that was kept, if it can have been one of this type: null is read as an
absent value. -/
def ofValue? : (type : ValueType) → Value → Option type.Carrier
  | .exact kind, v => kind.ofValue? v
  | .any, v => some v
  | .optional _, .null => some none
  | .optional type, v => (type.ofValue? v).map some

end ValueType

/-- A value as it is kept again after it was read as one of a type, if it can be. -/
def Value.as? (type : ValueType) (v : Value) : Option Value := (type.ofValue? v).map type.toValue

/-- The column types that JDBC names. -/
inductive JdbcType where
  | bit | boolean | smallInt | integer | bigInt | real | double | numeric | decimal
  | char | varchar | longVarchar | date | time | timestamp | timestampWithTimezone
  | binary | varBinary | blob | clob | array | other
  deriving DecidableEq, Repr

/-- All column types. -/
def JdbcType.all : List JdbcType :=
  [.bit, .boolean, .smallInt, .integer, .bigInt, .real, .double, .numeric, .decimal, .char,
    .varchar, .longVarchar, .date, .time, .timestamp, .timestampWithTimezone, .binary, .varBinary,
    .blob, .clob, .array, .other]

theorem JdbcType.mem_all (type : JdbcType) : type ∈ all := by cases type <;> decide

/-- The name of a type in placeholders. -/
def JdbcType.name : JdbcType → String
  | .bit => "BIT"
  | .boolean => "BOOLEAN"
  | .smallInt => "SMALLINT"
  | .integer => "INTEGER"
  | .bigInt => "BIGINT"
  | .real => "REAL"
  | .double => "DOUBLE"
  | .numeric => "NUMERIC"
  | .decimal => "DECIMAL"
  | .char => "CHAR"
  | .varchar => "VARCHAR"
  | .longVarchar => "LONGVARCHAR"
  | .date => "DATE"
  | .time => "TIME"
  | .timestamp => "TIMESTAMP"
  | .timestampWithTimezone => "TIMESTAMP_WITH_TIMEZONE"
  | .binary => "BINARY"
  | .varBinary => "VARBINARY"
  | .blob => "BLOB"
  | .clob => "CLOB"
  | .array => "ARRAY"
  | .other => "OTHER"

/-- The JDBC type of a kind of values. -/
def ValueKind.jdbcType : ValueKind → JdbcType
  | .bool => .boolean
  | .smallInt => .smallInt
  | .int => .integer
  | .bigInt => .bigInt
  | .real => .real
  | .double => .double
  | .text => .varchar
  | .bytes => .varBinary
  | .uuid => .other
  | .json => .other
  | .date => .date
  | .time => .time
  | .timestamp => .timestamp
  | .timestampTz => .timestampWithTimezone

/-- The JDBC type of a column type that names one kind. -/
def ValueType.jdbcType? : ValueType → Option JdbcType
  | .exact kind => some kind.jdbcType
  | _ => none

end SqlComposer
