import SqlComposer.Calendar.Reader
import SqlComposer.Json.Reader
import SqlComposer.Postgres.Type
import SqlComposer.Value.Text

/-! # Binding values to parameters

The bytes with which a value is bound to a parameter of a given type.  Whole numbers are narrowed to
the integer types that they fit, numbers are converted to the floating-point types, and a text is
read as a value of the parameter's type where that is not a type of texts.  All other values have
one encoding, whatever the type of the parameter is.

Values are written one behind the other into the buffer of a message.  A value is converted before
anything of it is written; what it is bound as is what it writes into an empty buffer. -/

namespace SqlComposer

/-- What is sent for a value. -/
inductive Bound where
  | null
  | bytes (bytes : List UInt8)
  deriving DecidableEq, Repr

/-- Why a value cannot be bound. -/
inductive BindError where
  | tooLarge
  | tooSmall
  | notUuid
  | notCalendar
  | textFor (type : PgType)
  deriving DecidableEq, Repr

/-- The wording of a failure, where it has one. -/
def BindError.message? : BindError → Option String
  | .tooLarge => some "number too large to fit in target type"
  | .tooSmall => some "number too small to fit in target type"
  | .notUuid => none
  | .notCalendar => none
  | .textFor type => some ("cannot bind a text value to a " ++ type.display ++ " parameter")

namespace Binary

/-- The four bytes of a number of 32 bits. -/
def bytes32 (x : Binary32) : List UInt8 := bigEndian 4 x.bits

/-- The eight bytes of a number of 64 bits. -/
def bytes64 (x : Binary64) : List UInt8 := bigEndian 8 x.bits

end Binary

/-- A whole number in the given number of bytes, if it fits. -/
def encodeInteger (size : Nat) (i : Int) : Except BindError (List UInt8) :=
  let limit : Int := (Nat.pow 2 (8 * size - 1) : Nat)
  if limit ≤ i then .error .tooLarge
  else if i < -limit then .error .tooSmall
  else .ok (signedBigEndian size i)

/-- A number of the size is written in its bytes. -/
theorem encodeInteger_fits {size : Nat} {i : Int} (hlow : -(Nat.pow 2 (8 * size - 1) : Nat) ≤ i)
    (hhigh : i < (Nat.pow 2 (8 * size - 1) : Nat)) :
    encodeInteger size i = .ok (signedBigEndian size i) := by
  rw [encodeInteger]
  simp only [if_neg (Int.not_le.2 hhigh), if_neg (Int.not_lt.2 hlow)]

/-- A whole number of at most 64 bits: narrowed or converted to the type, else in eight bytes. -/
def bindInteger (i : Int) (type : PgType) : Except BindError (List UInt8) :=
  if type = .int2 then encodeInteger 2 i
  else if type = .int4 then encodeInteger 4 i
  else if type = .float4 then .ok (Binary.ofInt .single i).bytes32
  else if type = .float8 then .ok (Binary.ofInt .double i).bytes64
  else .ok (signedBigEndian 8 i)

/-- A floating-point number: four bytes for the small type, else eight. -/
def bindFloat (x : Binary64) (type : PgType) : List UInt8 :=
  if type = .float4 then (x.convert .single).bytes32 else x.bytes64

/-- A date as the days since the year 2000 began. -/
def Date.bytes (d : Date) : List UInt8 := signedBigEndian 4 d.dayNumber

/-- A time as the microseconds since midnight. -/
def Time.bytes (t : Time) : List UInt8 := signedBigEndian 8 (t.nanoseconds / 1000 : Nat)

/-- A timestamp as the microseconds since the year 2000 began, cut toward zero. -/
def Timestamp.bytes (t : Timestamp) : List UInt8 := signedBigEndian 8 (t.nanoseconds.tdiv 1000)

/-- The first byte of the binary form of JSON and of versioned texts. -/
def versionByte : UInt8 := 1

/-- A JSON value as its text, after the version byte for the binary form. -/
def Json.bytes (j : Json) (type : PgType) : List UInt8 :=
  (if type = .jsonb then [versionByte] else []) ++ utf8 j.text

/-- A text for a type of texts. -/
def bindPlainText (s : String) (type : PgType) : List UInt8 :=
  (if PgType.versionedTextNames.contains type.name then [versionByte] else []) ++ utf8 s

/-- Something read from a text, or the failure to read it. -/
def readOr {α : Type} (failure : BindError) (read : Option α) : Except BindError α :=
  match read with
  | some a => .ok a
  | none => .error failure

/-- A text: as it is for types of texts, else read as a value of the type.  What is not JSON is
bound to the JSON types as a string. -/
def bindText (s : String) (type : PgType) : Except BindError (List UInt8) :=
  if type.acceptsText || type.isEnum then .ok (bindPlainText s type)
  else if type = .uuid then (readOr .notUuid (Uuid.ofText? s)).map Uuid.bytes
  else if type = .date then (readOr .notCalendar (Date.ofText? s)).map Date.bytes
  else if type = .time then (readOr .notCalendar (Time.ofText? s)).map Time.bytes
  else if type = .timestamp then (readOr .notCalendar (Timestamp.ofText? s)).map Timestamp.bytes
  else if type = .timestamptz then
    (readOr .notCalendar (Timestamp.ofZonedText? s)).map Timestamp.bytes
  else if type = .json ∨ type = .jsonb then
    .ok (((Json.parse? s).getD (.string s)).bytes type)
  else .error (.textFor type)

/-! ## Writing into a buffer -/

/-- Whether a value is sent as the null, for which nothing is written. -/
inductive IsNull where
  | yes
  | no
  deriving DecidableEq, Repr

/-- Writing into a buffer; a failure leaves what was written before it. -/
abbrev Writing := ExceptT BindError (StateM (List UInt8))

namespace Writing

/-- What a writing gives on a buffer, and the buffer that it leaves. -/
def outcome {α : Type} (writing : Writing α) (buffer : List UInt8) :
    Except BindError α × List UInt8 :=
  writing.run.run buffer

/-- Writes bytes at the end of the buffer. -/
def append (bytes : List UInt8) : Writing IsNull := do
  modify (· ++ bytes)
  return .no

/-- Writes the bytes that a conversion gives, and nothing when it fails. -/
def appendConverted (conversion : Except BindError (List UInt8)) : Writing IsNull := do
  let bytes ← liftM conversion
  append bytes

end Writing

namespace Value

open Writing

/-- Writes a value that is bound to a parameter. -/
def write (v : Value) (type : PgType) : Writing IsNull :=
  match v with
  | .null => return .yes
  | .bool b => append [if b then 1 else 0]
  | .smallInt i => appendConverted (bindInteger i.toInt type)
  | .int i => appendConverted (bindInteger i.toInt type)
  | .bigInt i => appendConverted (bindInteger i.toInt type)
  | .real x => append (bindFloat (x.convert .double) type)
  | .double x => append (bindFloat x type)
  | .text s => appendConverted (bindText s type)
  | .bytes b => append b
  | .uuid u => append u.bytes
  | .json j => append (j.bytes type)
  | .date d => append d.bytes
  | .time t => append t.bytes
  | .timestamp t => append t.bytes
  | .timestampTz t => append t.bytes

/-- What is sent for a value that is bound to a parameter. -/
def bind (v : Value) (type : PgType) : Except BindError Bound :=
  match (v.write type).outcome [] with
  | (.ok .yes, _) => .ok .null
  | (.ok .no, buffer) => .ok (.bytes buffer)
  | (.error e, _) => .error e

/-- A value that has one encoding is bound to it. -/
theorem bind_of_appended {v : Value} {type : PgType} {bytes : List UInt8}
    (h : v.write type = append bytes) : v.bind type = .ok (.bytes bytes) := by
  rw [bind, h]
  rfl

/-- A value that is converted first is bound to the bytes that it is converted to. -/
theorem bind_of_converted {v : Value} {type : PgType} {conversion : Except BindError (List UInt8)}
    (h : v.write type = appendConverted conversion) : v.bind type = conversion.map .bytes := by
  rw [bind, h]
  cases conversion <;> rfl

end Value

end SqlComposer
