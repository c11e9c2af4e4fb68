import SqlComposer.Number.Decimal

/-! # JSON values

A number is an integer of 64 bits, signed or unsigned, or a finite binary number.  An object keeps
its fields sorted by key, each key once; `Json.insertField` keeps that order and lets the later of
two equal keys win. -/

namespace SqlComposer

/-- The least integer of a JSON number, that of 64 bits with a sign. -/
def leastInteger : Int := -0x8000000000000000

/-- The greatest integer of a JSON number, that of 64 bits without a sign. -/
def greatestInteger : Int := 0xFFFFFFFFFFFFFFFF

/-- A JSON number.  Integers have at most 64 bits; every other number is a finite `Binary64`. -/
inductive JsonNumber where
  | integer (value : Int) (inRange : leastInteger ≤ value ∧ value ≤ greatestInteger)
  | real (value : Binary64) (finite : value.isFinite = true)
  deriving DecidableEq, Repr

/-- A JSON value. -/
inductive Json where
  | null
  | bool (value : Bool)
  | number (value : JsonNumber)
  | string (value : String)
  | array (items : List Json)
  | object (fields : List (String × Json))
  deriving Repr

namespace JsonNumber

/-- An integer as a number, when it has at most 64 bits. -/
def ofInt? (i : Int) : Option JsonNumber :=
  if h : leastInteger ≤ i ∧ i ≤ greatestInteger then some (.integer i h) else none

/-- A binary number, when it is finite. -/
def ofBinary? (x : Binary64) : Option JsonNumber :=
  if h : x.isFinite = true then some (.real x h) else none

/-- Equality of numbers: an integer never equals a binary number, and the two zeros are equal. -/
def equals : JsonNumber → JsonNumber → Bool
  | .integer a _, .integer b _ => a == b
  | .real a _, .real b _ => a.equals b
  | _, _ => false

end JsonNumber

namespace Json

mutual

/-- Equality of JSON values, numbers compared as numbers. -/
def equals : Json → Json → Bool
  | .null, .null => true
  | .bool a, .bool b => a == b
  | .number a, .number b => a.equals b
  | .string a, .string b => a == b
  | .array a, .array b => equalItems a b
  | .object a, .object b => equalFields a b
  | _, _ => false

/-- Equality of lists of values. -/
def equalItems : List Json → List Json → Bool
  | [], [] => true
  | a :: as, b :: bs => equals a b && equalItems as bs
  | _, _ => false

/-- Equality of fields, which are sorted. -/
def equalFields : List (String × Json) → List (String × Json) → Bool
  | [], [] => true
  | (j, a) :: as, (k, b) :: bs => j == k && equals a b && equalFields as bs
  | _, _ => false

end

/-- Fields with one more, in the order of keys; a field of the same key is replaced. -/
def insertField (key : String) (value : Json) :
    List (String × Json) → List (String × Json)
  | [] => [(key, value)]
  | (k, v) :: rest =>
    if key = k then (key, value) :: rest
    else if key < k then (key, value) :: (k, v) :: rest
    else (k, v) :: insertField key value rest

/-- An object with the given fields, the later of two equal keys winning. -/
def ofFields (fields : List (String × Json)) : Json :=
  .object (fields.foldl (fun sorted field => insertField field.1 field.2 sorted) [])

/-- The field of an object; other values have none. -/
def field? (key : String) : Json → Option Json
  | .object fields => (fields.find? (·.1 == key)).map (·.2)
  | _ => none

/-- Whether a value is the null. -/
def isNull : Json → Bool
  | .null => true
  | _ => false

end Json

end SqlComposer
