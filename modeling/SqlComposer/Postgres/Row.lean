import SqlComposer.Error
import SqlComposer.Postgres.Binding

/-! # Rows of results

A cell of a row is the value that the server encodes with the type of its column.  Reading asks for
one kind of values, which has to be that of the column type; a null is read only where it is
allowed.  A column is looked for by its name, at first as it is written and then in any ASCII case,
or by its place. -/

namespace SqlComposer

/-- A row of a result. -/
structure Row where
  columns : List (String × PgType)
  cells : List Value

/-- The kinds of values that are read. -/
inductive ReadKind where
  | int2 | int4 | int8 | float8 | bool | text
  deriving DecidableEq, Repr

/-- What a cell is read as. -/
structure ReadType where
  kind : ReadKind
  nullable : Bool
  deriving DecidableEq, Repr

/-- Where a cell is. -/
inductive CellIndex where
  | name (name : String)
  | place (place : Nat)
  deriving DecidableEq, Repr

/-- The name of a place in errors. -/
def CellIndex.display : CellIndex → String
  | .name s => s
  | .place n => "#" ++ toString n

/-- The bytes of a text without the version byte that some types put in front of it. -/
def unversioned? (type : PgType) (bytes : List UInt8) : Option (List UInt8) :=
  if PgType.versionedTextNames.contains type.name then
    match bytes with
    | b :: rest => if b = versionByte then some rest else none
    | [] => none
  else some bytes

namespace ReadKind

/-- Whether cells of a type are read as this kind. -/
def accepts (kind : ReadKind) (type : PgType) : Bool :=
  match kind with
  | .int2 => type = .int2
  | .int4 => type = .int4
  | .int8 => type = .int8
  | .float8 => type = .float8
  | .bool => type = .bool
  | .text => type.acceptsText

/-- The value that the bytes of a cell are, if there is the right number of them. -/
def decode? (kind : ReadKind) (type : PgType) (bytes : List UInt8) : Option Value :=
  match kind, bytes with
  | .int2, bytes =>
    if bytes.length = 2 then some (.smallInt (Int16.ofInt (ofSignedBigEndian bytes))) else none
  | .int4, bytes =>
    if bytes.length = 4 then some (.int (Int32.ofInt (ofSignedBigEndian bytes))) else none
  | .int8, bytes =>
    if bytes.length = 8 then some (.bigInt (Int64.ofInt (ofSignedBigEndian bytes))) else none
  | .float8, bytes =>
    if bytes.length = 8 then some (.double (.ofBits .double (ofBigEndian bytes))) else none
  | .bool, [b] => some (.bool (b ≠ 0))
  | .bool, _ => none
  | .text, bytes =>
    (unversioned? type bytes).bind fun text => (String.fromUTF8? ⟨text.toArray⟩).map .text

end ReadKind

/-- Equality of ASCII letters in any case. -/
def equalIgnoringAsciiCase (a b : String) : Bool :=
  a.toList.map Char.toLower == b.toList.map Char.toLower

namespace Row

/-- The place of a column. -/
def find? (row : Row) : CellIndex → Option Nat
  | .place n => if n < row.columns.length then some n else none
  | .name s =>
    (row.columns.findIdx? (·.1 == s)).or
      (row.columns.findIdx? fun column => equalIgnoringAsciiCase column.1 s)

/-- The value of a cell. -/
def read (row : Row) (index : CellIndex) (type : ReadType) : Except Error Value :=
  let failure (message : String) : Except Error Value := .error (.decode index.display message)
  match (row.find? index).bind fun place => row.columns[place]?.map (·.2, row.cells[place]?) with
  | none => failure "there is no such column"
  | some (columnType, cell) =>
    if !type.kind.accepts columnType then failure "the column has another type"
    else
      match (cell.getD .null).bind columnType with
      | .ok .null => if type.nullable then .ok .null else failure "the value is null"
      | .ok (.bytes bytes) =>
        match type.kind.decode? columnType bytes with
        | some value => .ok value
        | none => failure "the value has another size"
      | .error _ => failure "the value has another type"

/-- The values of cells read one after the other. -/
def readAll (row : Row) (cells : List (CellIndex × ReadType)) : Except Error (List Value) :=
  cells.mapM fun cell => row.read cell.1 cell.2

/-- The whole number at the first place. -/
def count (row : Row) : Except Error Int64 := do
  match ← row.read (.place 0) ⟨.int8, false⟩ with
  | .bigInt n => return n
  | _ => throw (.decode (CellIndex.place 0).display "the value is no whole number")

end Row

end SqlComposer
