import SqlComposer.Json.Printer
import SqlComposer.Value.Basic

/-! # Values as texts and as JSON

`Value.display` writes a value for readers.  `Value.toJson` is the JSON value of a value without any
mark of its kind: times are texts, bytes a list of numbers, numbers that are not finite are null,
and a number of 32 bits becomes one of 64.  `Value.jsonText` writes the same, but a number of 32
bits with its own shortest digits.  `Value.ofJson` is the value that a property of a record
holds. -/

namespace SqlComposer

/-- A timestamp with a blank between date and time. -/
def Timestamp.text (t : Timestamp) : String := String.ofList (t.chars ' ')

/-- An instant in UTC, named so. -/
def Timestamp.textUtc (t : Timestamp) : String := t.text ++ " UTC"

/-- A timestamp with a `T` between date and time. -/
def Timestamp.textIso (t : Timestamp) : String := String.ofList (t.chars 'T')

namespace Value

/-- The text of a value for readers. -/
def display : Value → String
  | .null => "null"
  | .bool b => if b then "true" else "false"
  | .smallInt i => toString i.toInt
  | .int i => toString i.toInt
  | .bigInt i => toString i.toInt
  | .real x => x.text
  | .double x => x.text
  | .text s => s
  | .bytes b => "<" ++ toString b.length ++ " bytes>"
  | .uuid u => u.text
  | .json j => j.text
  | .date d => d.text
  | .time t => t.text
  | .timestamp t => t.text
  | .timestampTz t => t.textUtc

/-- A whole number as JSON; numbers of at most 64 bits always are. -/
def jsonInt (i : Int) : Json := ((JsonNumber.ofInt? i).map Json.number).getD .null

/-- A binary number as JSON, null when it is not finite. -/
def jsonBinary (x : Binary64) : Json := ((JsonNumber.ofBinary? x).map Json.number).getD .null

/-- A value as JSON, without a mark of its kind. -/
def toJson : Value → Json
  | .null => .null
  | .bool b => .bool b
  | .smallInt i => jsonInt i.toInt
  | .int i => jsonInt i.toInt
  | .bigInt i => jsonInt i.toInt
  | .real x => jsonBinary (x.convert .double)
  | .double x => jsonBinary x
  | .text s => .string s
  | .bytes b => .array (b.map fun byte => jsonInt byte.toNat)
  | .uuid u => .string u.text
  | .json j => j
  | .date d => .string d.text
  | .time t => .string t.text
  | .timestamp t => .string t.textIso
  | .timestampTz t => .string (t.textIso ++ "Z")

/-- The JSON text of a value, a number of 32 bits with its own shortest digits. -/
def jsonText : Value → String
  | .real x => if x.isFinite then x.jsonText .single else "null"
  | v => v.toJson.text

/-- The greatest big integer. -/
def greatestBigInt : Int := 0x7FFFFFFFFFFFFFFF

/-- The value that a property of a record holds: a whole number that fits is a big integer, every
other number a double, and lists and objects stay JSON. -/
def ofJson : Json → Value
  | .null => .null
  | .bool b => .bool b
  | .number (.integer i _) =>
    if i ≤ greatestBigInt then .bigInt (Int64.ofInt i) else .double (Binary.ofInt .double i)
  | .number (.real x _) => .double x
  | .string s => .text s
  | .array items => .json (.array items)
  | .object fields => .json (.object fields)

end Value

end SqlComposer
